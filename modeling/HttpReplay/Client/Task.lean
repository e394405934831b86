import HttpReplay.Bytes
import HttpReplay.Time.Calendar
import HttpReplay.Time.Duration

/-!
What a client asks of the network, as data.

A `Task` is a computation that stops wherever it needs the outside world: each constructor but
`done` names one operation and holds what to do with its outcome. Nothing in it says how an outcome
comes about, so whoever runs a task may be a scheduler with a virtual clock, and a statement about
*every* behaviour of the network is a statement about every path through the tree.

Operations that take time carry the instant at which they are given up; an outcome `timedOut`
says that this happened.
-/

set_option autoImplicit false

namespace HttpReplay

/-- The outcome of an attempt to connect. -/
inductive DialOutcome where
  | connected
  | unresolved (reason : String)
  | noAddress
  | refused (reason : String)
  | timedOut
  deriving DecidableEq, Repr

inductive HandshakeOutcome where
  | secured
  | failed (reason : String)
  | timedOut
  deriving DecidableEq, Repr

inductive WriteOutcome where
  | written
  | failed (reason : String)
  | timedOut
  deriving DecidableEq, Repr

/-- The outcome of a read. What is received is never nothing: the end of the stream is an outcome
of its own. -/
inductive ReadOutcome where
  | received (first : UInt8) (more : Bytes)
  | ended
  | failed (reason : String)
  | timedOut
  deriving DecidableEq, Repr

/-- A computation that uses the network. -/
inductive Task (α : Type) where
  | done (value : α)
  | now (next : Instant → Task α)
  | date (next : Moment → Task α)
  | dial (address : String) (limit : Instant) (next : DialOutcome → Task α)
  /-- Secures the new connection under the name of a host. -/
  | handshake (host : String) (limit : Instant) (next : HandshakeOutcome → Task α)
  | write (data : Bytes) (limit : Instant) (next : WriteOutcome → Task α)
  /-- Reads at most `most` bytes from the connection. -/
  | read (most : Nat) (limit : Instant) (next : ReadOutcome → Task α)
  /-- Drops the connection. -/
  | close (next : Task α)

namespace Task

variable {α β : Type}

/-- One task after another. -/
def bind : Task α → (α → Task β) → Task β
  | done a, f => f a
  | now next, f => now fun t => (next t).bind f
  | date next, f => date fun m => (next m).bind f
  | dial address limit next, f => dial address limit fun o => (next o).bind f
  | handshake host limit next, f => handshake host limit fun o => (next o).bind f
  | write data limit next, f => write data limit fun o => (next o).bind f
  | read most limit next, f => read most limit fun o => (next o).bind f
  | close next, f => close (next.bind f)

instance : Monad Task where
  pure := done
  bind := bind

def clock : Task Instant := now done

/-- Drops the connection. -/
def disconnect : Task Unit := close (done ())

end Task
end HttpReplay
