import HttpReplay.Client.Failure
import HttpReplay.Simulation.ClientTrial

/-!
One connection on a simulated network, used by hand: it is opened, bytes are sent, the sending side
is perhaps shut down, and what comes back is read to its end.
-/

set_option autoImplicit false

namespace HttpReplay.Simulation

/-- What is done with a connection. -/
structure StreamPlan where
  /-- Where to connect. -/
  address : String
  /-- The name to secure the connection under, if it is to be secured. -/
  secureAs : Option String
  /-- How long each of connecting, securing and reading may take. -/
  limit : Duration
  /-- What to send. -/
  data : Bytes
  /-- Whether to shut down the sending side then. -/
  shutdown : Bool
  deriving DecidableEq, Repr

/-- Why a connection could not be used. -/
inductive StreamFailure where
  | dial (why : DialFailure)
  | serverName
  | handshake
  /-- Securing it took too long. -/
  | handshakeTimeout
  deriving DecidableEq, Repr

/-- How reading ended. -/
inductive StreamEnd where
  | ended
  | failed
  | timedOut
  deriving DecidableEq, Repr

/-- What using a connection came to. -/
structure StreamReport where
  /-- Whether everything was sent. -/
  sent : Bool
  /-- What came back. -/
  received : Bytes
  /-- How reading ended. -/
  ending : StreamEnd
  deriving DecidableEq, Repr

namespace StreamPlan

/-- Opens the connection. -/
def dial (plan : StreamPlan) : Task (Except StreamFailure Unit) :=
  .now fun now => .dial plan.address (now + plan.limit) fun outcome => .done <|
    match outcome with
    | .connected => .ok ()
    | .unresolved reason => .error (.dial (.unresolved plan.address reason))
    | .noAddress => .error (.dial (.noAddress plan.address))
    | .refused reason => .error (.dial (.refused plan.address reason))
    | .timedOut => .error (.dial (.timedOut plan.address plan.limit))

/-- Secures it, if it is to be secured. -/
def secure (plan : StreamPlan) : Task (Except StreamFailure Unit) :=
  match plan.secureAs with
  | none => .done (.ok ())
  | some host =>
    let name := Net.ServerName.ofHost host
    if Net.ServerName.isValid name then
      .now fun now => .handshake name (now + plan.limit) fun outcome => .done <|
        match outcome with
        | .secured => .ok ()
        | .failed _ => .error .handshake
        | .timedOut => .error .handshakeTimeout
    else .done (.error .serverName)

/-- Sends the data. -/
def write (plan : StreamPlan) : Task Bool :=
  .now fun now => .write plan.data (now + plan.limit) fun outcome => .done (outcome == .written)

/-- Opens the connection and sends the data. -/
def begin (plan : StreamPlan) : Task (Except StreamFailure Bool) :=
  plan.dial.bind fun
    | .error why => .done (.error why)
    | .ok () => plan.secure.bind fun
      | .error why => .done (.error why)
      | .ok () => plan.write.bind fun sent => .done (.ok sent)

/-- Reads at most so many pieces, with `received` behind it. -/
def readAll (deadline : Instant) : Nat → Bytes → Task (Bytes × StreamEnd)
  | 0, received => .done (received, .timedOut)
  | pieces + 1, received => .read 65536 deadline fun
    | .received first more => readAll deadline pieces (received ++ first :: more)
    | .ended => .done (received, .ended)
    | .failed _ => .done (received, .failed)
    | .timedOut => .done (received, .timedOut)

def run (plan : StreamPlan) (net : Network) (now : Instant) :
    Option (Network × Except StreamFailure StreamReport) :=
  match Session.complete patience net now ⟨plan.begin, none⟩ with
  | none => none
  | some (p, .error why) => some (p.net, .error why)
  | some (p, .ok sent) =>
    let net := match plan.shutdown, p.session.connection with
      | true, some k => match p.net.connections[k]? with
        | some c => p.net.setConnection k { c with abandoned := true }
        | none => p.net
      | _, _ => p.net
    let reading := readAll (p.now + plan.limit) patience []
    (Session.complete patience net p.now ⟨reading, p.session.connection⟩).map
      fun (p, received, ending) =>
        ((p.net.drain patience p.now).1, .ok ⟨sent, received, ending⟩)

end StreamPlan
end HttpReplay.Simulation
