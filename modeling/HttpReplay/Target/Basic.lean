/-!
The server that traffic is replayed to.
-/

set_option autoImplicit false

namespace HttpReplay

/-- How a server is spoken to. -/
inductive Scheme where
  | http
  /-- Through a secure connection. -/
  | https
  deriving DecidableEq, Repr

namespace Scheme

def name : Scheme → String
  | http => "http"
  | https => "https"

def defaultPort : Scheme → Nat
  | http => 80
  | https => 443

end Scheme

/-- A server to replay to. -/
structure Target where
  scheme : Scheme
  /-- The host alone, under which a secure server proves itself. -/
  host : String
  /-- What the Host field of a request says. -/
  authority : String
  dialAddress : String
  deriving DecidableEq, Repr

namespace Target

/-- The server on a host, at the given port or the one that the scheme implies. The authority
leaves an implied port out; the address to connect to never does. -/
def onHost (scheme : Scheme) (host : String) (port : Option Nat) : Target :=
  { scheme, host
    authority := match port with
      | some p => host ++ ":" ++ toString p
      | none => host
    dialAddress := host ++ ":" ++ toString (port.getD scheme.defaultPort) }

/-- The address of the server's root, without a path. -/
def baseUrl (t : Target) : String := t.scheme.name ++ "://" ++ t.authority

def isSecure (t : Target) : Bool := t.scheme == .https

end Target
end HttpReplay
