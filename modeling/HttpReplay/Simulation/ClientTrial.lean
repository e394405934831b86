import HttpReplay.Client.Basic
import HttpReplay.Simulation.Network

/-!
One client on a simulated network, taken through a list of steps.

The trial answers for every step what its caller would see, and keeps the count of made-up
responses. Between two steps no time passes; within a step the clock jumps from one event to the
next: the end of a pause or the moment at which the pending operation is given up.
-/

set_option autoImplicit false

namespace HttpReplay.Simulation

/-! ## Waiting -/

/-- More events than any simulation of ours has between two steps. -/
def patience : Nat := 10000000

/-- Runs a session to its end, and returns its result with it. -/
def Session.complete {α : Type} :
    Nat → Network → Instant → Session α → Option (Progress α × α)
  | 0, _, _, _ => none
  | fuel + 1, net, now, s =>
    let p := s.run net now
    match p.session.result?, p.session.limit? with
    | some a, _ => some (p, a)
    | none, none => none
    | none, some limit =>
      let next := match p.net.nextWake with
        | some wake => min wake limit
        | none => limit
      Session.complete fuel p.net (max next p.now) p.session

/-- Lets every server finish what it can do without the client. -/
def Network.drain : Nat → Network → Instant → Network × Instant
  | 0, net, now => (net, now)
  | fuel + 1, net, now =>
    let net := net.play now
    match net.nextWake with
    | none => (net, now)
    | some wake => Network.drain fuel net (max wake now)

/-! ## Trials -/

inductive ClientStep where
  /-- Sends a request. -/
  | send (request : Bytes)
  /-- Sends a request with that many bytes of body. -/
  | sendLarge (size : Nat)
  /-- Sends a request for a path. -/
  | get (path : String)
  /-- Opens a connection. -/
  | connect
  /-- Drops the connection. -/
  | disconnect
  /-- Probes the connection. -/
  | isAlive
  /-- Waits until the servers wait. -/
  | wait
  deriving DecidableEq, Repr

/-- What a step comes to. -/
inductive ClientAnswer where
  | response (data : Bytes)
  /-- Whether a connection was opened, and what stands for the failure if not. -/
  | opened (failure : Option SyntheticStatus)
  /-- Whether the connection is worth using. -/
  | alive (yes : Bool)
  | nothing
  deriving DecidableEq, Repr

/-- A client and its network in the middle of a trial. -/
structure ClientTrial where
  net : Network
  now : Instant
  client : Client
  /-- The number of the client's connection. -/
  connection : Option Nat
  /-- The statuses of the made-up responses, the latest first. -/
  synthetic : List SyntheticStatus

namespace ClientTrial

/-- The request that `sendLarge` sends. A body that no connection can hold is not built whole: the
write waits in vain all the same. -/
def largeRequest (size : Nat) : Bytes :=
  Bytes.ofText "POST /big HTTP/1.1\r\n\r\n" ++
    List.replicate (min size (Connection.capacity true + 1)) 0x78

def runTask {α : Type} (t : ClientTrial) (task : Task α) : Option (ClientTrial × α) :=
  (Session.complete patience t.net t.now ⟨task, t.connection⟩).map fun (p, a) =>
    ({ t with net := p.net, now := p.now, connection := p.session.connection }, a)

/-- Runs a task that sends a request. -/
def runSend (t : ClientTrial) (task : Task (Client × Reply)) :
    Option (ClientTrial × ClientAnswer) :=
  (t.runTask task).map fun (t, client, reply) =>
    let synthetic := match reply with
      | .failed why _ => why.status :: t.synthetic
      | .answered _ => t.synthetic
    ({ t with client, synthetic }, .response reply.response)

def step (t : ClientTrial) : ClientStep → Option (ClientTrial × ClientAnswer)
  | .send request => t.runSend (t.client.send request)
  | .sendLarge size => t.runSend (t.client.send (largeRequest size))
  | .get path => t.runSend (t.client.get path)
  | .connect => (t.runTask t.client.reconnect).map fun (t, client, result) =>
    ({ t with client }, .opened (match result with
      | .ok () => none
      | .error why => some why.status))
  | .disconnect => (t.runTask t.client.disconnect).map fun (t, client) =>
    ({ t with client }, .nothing)
  | .isAlive => (t.runTask t.client.isAlive).map fun (t, yes) => (t, .alive yes)
  | .wait =>
    let (net, now) := t.net.drain patience t.now
    some ({ t with net, now }, .nothing)

/-- All steps: for each its answer and whether the client is connected after it. At the end the
servers have one more turn. -/
def run (t : ClientTrial) : List ClientStep → Option (ClientTrial × List (ClientAnswer × Bool))
  | [] => some ({ t with net := (t.net.drain patience t.now).1 }, [])
  | s :: rest => do
    let (t, answer) ← t.step s
    let (last, answers) ← t.run rest
    some (last, (answer, t.client.isConnected) :: answers)

end ClientTrial
end HttpReplay.Simulation
