import HttpReplay.Bytes
import HttpReplay.Client.Task
import HttpReplay.Time.Duration

/-!
The far end of a connection, played from a script.

A script says what a server does on one connection: wait for a request, send bytes, pause, end or
reset the connection. `Connection` is a connection with such a server at its end. Everything a
server does takes no time except to pause, so a script runs at once up to its next pause or to the
next request that is not there yet (`Connection.play`).

What a server sends is read in pieces. In the clear all that is there is one piece. On a secured
connection the pieces are those that were sealed, and each read ends with one.
-/

set_option autoImplicit false

namespace HttpReplay.Simulation

/-- One thing that a scripted server does. -/
inductive Action where
  /-- Waits for the next write of the client. -/
  | receive
  | send (data : Bytes)
  | pause
  | close
  | reset
  deriving DecidableEq, Repr

/-- What a server does on one connection. -/
abbrev Script := List Action

/-- The script with what is sent in a row sent at once. -/
def Script.merged : Script → Script
  | [] => []
  | .send data :: rest =>
    match merged rest with
    | .send more :: rest => .send (data ++ more) :: rest
    | rest => .send data :: rest
  | action :: rest => action :: merged rest

def pauseLength : Duration := Duration.ofMillis 12

/-- The state of the server's side of a stream. -/
inductive PeerEnd where
  /-- The server may still send. -/
  | open
  /-- The server has ended the stream. -/
  | closed
  /-- The server has reset the connection; whether the client has met the error yet. -/
  | reset (noticed : Bool)
  deriving DecidableEq, Repr

/-- What a client wrote. -/
inductive Written where
  | clear (data : Bytes)
  /-- The opening of a secure handshake, which a server in the clear does not understand. -/
  | hello
  deriving DecidableEq, Repr

/-- The size of what the client wrote. -/
def Written.size : Written → Nat
  | clear data => data.length
  | hello => 1

/-- A connection to a scripted server. -/
structure Connection where
  /-- Whether the connection is secured. -/
  secured : Bool
  /-- What is left of the script. -/
  script : Script
  /-- When the server's pause ends, while it pauses. -/
  pausedUntil : Option Instant
  /-- What was sent and not yet read, in the pieces in which it can be read. None is empty. -/
  inbox : List Bytes
  /-- What the client wrote and the server has not received. -/
  outbox : List Written
  /-- What the server has received, the latest first. -/
  received : List Written
  /-- The state of the server's side. -/
  peer : PeerEnd
  /-- Whether the client has dropped the connection. -/
  abandoned : Bool
  deriving DecidableEq, Repr

namespace Connection

def accept (secured : Bool) (script : Script) : Connection :=
  { secured, script := script.merged, pausedUntil := none, inbox := [], outbox := [], received := []
    peer := .open, abandoned := false }

/-- The most bytes that are sealed in one piece. -/
def sealLength : Nat := 0x4000

/-- Cuts what is sent on a secured connection into the pieces that are sealed one by one. -/
def seals : Bytes → List Bytes
  | [] => []
  | first :: more =>
    (first :: more.take (sealLength - 1)) :: seals (more.drop (sealLength - 1))
  termination_by data => data.length
  decreasing_by
    rw [List.length_drop, List.length_cons]
    omega

/-- What waits to be read after more was sent. In the clear bytes are bytes, but what was sealed in
one piece is read apart from the next. -/
def arrive (c : Connection) (data : Bytes) : List Bytes :=
  if c.secured then c.inbox ++ seals data
  else
    match c.inbox.flatten ++ data with
    | [] => []
    | first :: more => [first :: more]

/-- Runs a script up to its next pause or to a request that is not there. -/
def playScript (now : Instant) (c : Connection) : Script → Connection
  | [] => { c with script := [] }
  | .receive :: rest =>
    match c.outbox with
    | written :: more =>
      playScript now { c with outbox := more, received := written :: c.received } rest
    | [] => { c with script := if c.abandoned then [] else .receive :: rest }
  | .send data :: rest => playScript now { c with inbox := c.arrive data } rest
  | .pause :: rest => { c with script := rest, pausedUntil := some (now + pauseLength) }
  | .close :: _ => { c with script := [], peer := .closed }
  | .reset :: _ => { c with script := [], peer := .reset false }

/-- What the server does by the instant `now`. -/
def play (now : Instant) (c : Connection) : Connection :=
  match c.pausedUntil with
  | none => playScript now c c.script
  | some t => if t ≤ now then playScript now { c with pausedUntil := none } c.script else c

/-- The bytes that a connection holds before writing has to wait. A secured one holds more, since
what has been sealed waits in a buffer of its own. -/
def capacity (secured : Bool) : Nat := if secured then 298600 else 219264

/-- What a read comes to at once, and the connection after it; nothing if it has to wait. What was
sent before a reset is still there, then the reset is met once. After that the stream has ended:
rightly for a reader in the clear, too early for one who was promised a farewell. -/
def read? (most : Nat) (c : Connection) : Option (ReadOutcome × Connection) :=
  match c.inbox with
  | (first :: piece) :: inbox =>
    let (more, rest) := piece.splitAt (most - 1)
    some (.received first more, { c with inbox := if rest.isEmpty then inbox else rest :: inbox })
  | _ =>
    match c.peer with
    | .open => none
    | .closed => some (.ended, c)
    | .reset true => some (if c.secured then .failed "unexpected end of file" else .ended, c)
    | .reset false => some (.failed "connection reset", { c with peer := .reset true })

/-- What a write comes to at once. To write nothing always succeeds, and after the end of the
stream what is written is lost. -/
def write? (written : Written) (c : Connection) : Option (WriteOutcome × Connection) :=
  if written.size = 0 then some (.written, c)
  else
    match c.peer with
    | .reset true => some (.failed "broken pipe", c)
    | .closed | .reset false => some (.written, c)
    | .open =>
      if (c.outbox.map Written.size).foldr (· + ·) written.size ≤ capacity c.secured then
        some (.written, { c with outbox := c.outbox ++ [written] })
      else none

/-- Tries an operation of the client, and once more after the server's turn if it would have to
wait. -/
def attempt {α : Type} (now : Instant) (c : Connection)
    (operation : Connection → Option (α × Connection)) : Option α × Connection :=
  match operation c with
  | some (outcome, c) => (some outcome, c)
  | none =>
    let c := c.play now
    match operation c with
    | some (outcome, c) => (some outcome, c)
    | none => (none, c)

/-- The requests that the server received, in order. -/
def requests (c : Connection) : List Written := c.received.reverse

end Connection
end HttpReplay.Simulation
