import HttpReplay.Client.Task
import HttpReplay.Net.IpAddress
import HttpReplay.Net.ServerName
import HttpReplay.Simulation.Peer

/-!
A network with one scripted target, and tasks that run on it.

`Session.run` takes a task as far as it gets at one instant: it answers every operation that has an
outcome by now and stops at the first that has to wait. A server gets its turn when the client would
have to wait for it, not before: what a client finds is what was there when it looked. Every
operation that comes to an outcome takes a nanosecond of the virtual clock, so that what happens
later is later, unless there is no network at all to take the time. The clock otherwise moves only
when whoever drives the simulation moves it, and the date does not move.
-/

set_option autoImplicit false

namespace HttpReplay.Simulation

structure Network where
  /-- Whether there is a target at all. -/
  listening : Bool
  /-- Whether the target speaks through secure connections. -/
  secure : Bool
  /-- The scripts of the connections to come. -/
  scripts : List Script
  /-- The script of every connection after those. -/
  rest : Script
  /-- The connections so far. -/
  connections : Array Connection
  /-- The time that an operation takes. -/
  tick : Duration
  /-- The date. -/
  today : Moment

namespace Network

def targetAddress : String := "127.0.0.1:PPPPP"

def refusingAddress : String := "127.0.0.1:10009"

/-- An address that never answers. -/
def silentAddress : String := "127.0.0.1:10010"

/-- Whether the part of an address after its last colon is the number of a port. -/
def hasPort (address : String) : Bool :=
  let digits := (address.toList.reverse.takeWhile (· != ':')).reverse
  address.toList.contains ':' && (Numeral.natural? 10 0xFFFF digits).isSome

/-- Where an address leads. -/
inductive Route where
  | target
  | refused (reason : String)
  | silent
  /-- Nowhere, since it is no address. -/
  | unresolved (reason : String)
  deriving DecidableEq, Repr

def route (net : Network) (address : String) : Route :=
  if address = targetAddress then
    if net.listening then .target else .refused "network unreachable"
  else if !hasPort address then .unresolved "invalid socket address"
  else if !net.listening then .refused "network unreachable"
  else if address = refusingAddress then .refused "connection refused"
  else if address = silentAddress then .silent
  else .refused "network unreachable"

/-- Whether an attempt to connect takes the network at all, rather than fail where it is made. -/
def reaches (net : Network) (address : String) : Bool :=
  match net.route address with
  | .target | .silent => true
  | .refused _ | .unresolved _ => false

/-- The network after a connection was accepted. -/
def accept (net : Network) : Network :=
  match net.scripts with
  | script :: scripts =>
    { net with scripts, connections := net.connections.push (.accept net.secure script) }
  | [] => { net with connections := net.connections.push (.accept net.secure net.rest) }

/-- The network after one of its connections changed. -/
def setConnection (net : Network) (k : Nat) (c : Connection) : Network :=
  { net with connections := net.connections.setIfInBounds k c }

/-- What the servers do by the instant `now`. -/
def play (net : Network) (now : Instant) : Network :=
  { net with connections := net.connections.map (·.play now) }

/-- When the first pause ends. -/
def nextWake (net : Network) : Option Instant :=
  (net.connections.toList.filterMap (·.pausedUntil)).min?

end Network

/-! ## Sessions -/

/-- A task, and the connection that it uses. -/
structure Session (α : Type) where
  task : Task α
  /-- The number of its connection, if it has one. -/
  connection : Option Nat

/-- The network, the clock and a session after some running. -/
structure Progress (α : Type) where
  net : Network
  now : Instant
  session : Session α

namespace Session

variable {α : Type}

/-- The result of a task that is done. -/
def result? (s : Session α) : Option α :=
  match s.task with
  | .done a => some a
  | _ => none

/-- When the operation that a task waits for is given up. -/
def limit? (s : Session α) : Option Instant :=
  match s.task with
  | .dial _ limit _ | .handshake _ limit _ | .write _ limit _ | .read _ limit _ => some limit
  | .done _ | .now _ | .date _ | .close _ => none

/-- What a handshake comes to at once with a server in the clear: whatever it sends is not what a
handshake expects. -/
def clearHandshake? (c : Connection) : Option (HandshakeOutcome × Connection) :=
  match c.read? 1 with
  | some (.received _ _, c) => some (.failed "received corrupt message", c)
  | some (.ended, c) => some (.failed "unexpected end of file", c)
  | some (.failed reason, c) => some (.failed reason, c)
  | some (.timedOut, _) | none => none

/-- Runs a task as far as it gets at the instant `now`. -/
def runTask (net : Network) (now : Instant) (connection : Option Nat) : Task α → Progress α
  | .done a => ⟨net, now, ⟨.done a, connection⟩⟩
  | .now next => runTask net now connection (next now)
  | .date next => runTask net now connection (next net.today)
  | .close next =>
    let net := match connection.bind (fun k => net.connections[k]?.map (k, ·)) with
      | some (k, c) => net.setConnection k ({ c with abandoned := true }.play now)
      | none => net
    runTask net now none next
  | .dial address limit next =>
    match net.route address with
    | .target =>
      let k := net.connections.size
      let net := net.accept
      let net := if net.secure then net else net.play now
      runTask net (now + net.tick) (some k) (next .connected)
    | .refused reason => runTask net (now + net.tick) connection (next (.refused reason))
    | .unresolved reason => runTask net (now + net.tick) connection (next (.unresolved reason))
    | .silent =>
      if limit ≤ now then runTask net now connection (next .timedOut)
      else ⟨net, now, ⟨.dial address limit next, connection⟩⟩
  | .handshake host limit next =>
    match connection.bind (fun k => net.connections[k]?.map (k, ·)) with
    | none => runTask net now connection (next (.failed "not connected"))
    | some (k, c) =>
      if net.secure then
        runTask (net.setConnection k (c.play now)) (now + net.tick) connection (next .secured)
      else
        let c := if c.received.isEmpty && c.outbox.isEmpty then
            match c.write? .hello with
            | some (_, c) => c.play now
            | none => c
          else c
        match clearHandshake? c with
        | some (outcome, c) =>
          runTask (net.setConnection k c) (now + net.tick) connection (next outcome)
        | none =>
          if limit ≤ now then runTask (net.setConnection k c) now connection (next .timedOut)
          else ⟨net.setConnection k c, now, ⟨.handshake host limit next, connection⟩⟩
  | .write data limit next =>
    match connection.bind (fun k => net.connections[k]?.map (k, ·)) with
    | none => runTask net now connection (next (.failed "not connected"))
    | some (k, c) =>
      let (outcome, c) := c.attempt now (·.write? (.clear data))
      let net := net.setConnection k c
      match outcome with
      | some outcome => runTask net (now + net.tick) connection (next outcome)
      | none =>
        if limit ≤ now then runTask net now connection (next .timedOut)
        else ⟨net, now, ⟨.write data limit next, connection⟩⟩
  | .read most limit next =>
    match connection.bind (fun k => net.connections[k]?.map (k, ·)) with
    | none => runTask net now connection (next (.failed "not connected"))
    | some (k, c) =>
      let (outcome, c) := c.attempt now (·.read? most)
      let net := net.setConnection k c
      match outcome with
      | some outcome => runTask net (now + net.tick) connection (next outcome)
      | none =>
        if limit ≤ now then runTask net now connection (next .timedOut)
        else ⟨net, now, ⟨.read most limit next, connection⟩⟩

/-- Runs a session as far as it gets at the instant `now`. -/
def run (net : Network) (now : Instant) (s : Session α) : Progress α :=
  runTask (net.play now) now s.connection s.task

end Session
end HttpReplay.Simulation
