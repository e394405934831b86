import HttpReplay.Target.Basic
import HttpReplay.Target.Url

/-!
Reading the server to replay to from its address.

An address may lack its scheme, as in `localhost:8080`; it is then spoken to in the clear.
-/

set_option autoImplicit false

namespace HttpReplay

/-- Why an address names no server. `url` is the address with its scheme. -/
inductive TargetError where
  | malformed (url : String) (why : Url.Fault)
  | noHost (url : String)
  | unsupportedScheme (url : String) (scheme : String)
  deriving DecidableEq, Repr

/-- What is said about an address that names no server. -/
def TargetError.message : TargetError → String
  | malformed url why => "invalid target url " ++ url ++ ": " ++ why.message
  | noHost url => "target url " ++ url ++ " has no host"
  | unsupportedScheme url scheme => "unsupported scheme " ++ scheme ++ " in " ++ url

def Scheme.ofName? : String → Option Scheme
  | "http" => some .http
  | "https" => some .https
  | _ => none

namespace Target

def hasScheme (address : String) : Bool :=
  Bytes.hasPattern (Bytes.ofText "://") (Bytes.ofText address)

/-- The server that an address names. -/
def parse (address : String) : Except TargetError Target := do
  let url := if hasScheme address then address else Scheme.http.name ++ "://" ++ address
  let parsed ← (Url.parse url).mapError (.malformed url)
  let some scheme := Scheme.ofName? parsed.scheme
    | throw (.unsupportedScheme url parsed.scheme)
  let some host := parsed.host | throw (.noHost url)
  return onHost scheme host.text parsed.port

end Target
end HttpReplay
