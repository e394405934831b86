import HttpReplay.Time.Duration

/-!
Why a round trip fails, and the status that stands for it.

A client never reports a failure as such: it answers with a made-up response whose status is in
the 52x range, where edge servers put theirs. `Failure.status` is the whole of that mapping.
-/

set_option autoImplicit false

namespace HttpReplay

/-- Why no connection to an address came about. -/
inductive DialFailure where
  /-- The address could not be resolved. -/
  | unresolved (address reason : String)
  /-- The address resolved to nothing. -/
  | noAddress (address : String)
  /-- No answer within the limit. -/
  | timedOut (address : String) (limit : Duration)
  /-- The connection was refused, or the address is out of reach. -/
  | refused (address reason : String)
  deriving DecidableEq, Repr

/-- The words for a failure to connect. -/
def DialFailure.message : DialFailure → String
  | unresolved address reason => "failed to resolve " ++ address ++ ": " ++ reason
  | noAddress address => address ++ " resolved to no addresses"
  | timedOut address limit => "connect to " ++ address ++ " timed out after " ++ limit.text
  | refused address reason => "connect to " ++ address ++ " failed: " ++ reason

/-- The status of a made-up response. -/
inductive SyntheticStatus where
  /-- The target answered something that is no response. -/
  | unknown
  /-- The target refused or dropped the connection. -/
  | connectionError
  /-- Connecting took too long. -/
  | connectionTimeout
  /-- The target's address could not be found. -/
  | unreachable
  /-- Writing or reading took too long. -/
  | timeout
  deriving DecidableEq, Repr

/-- The status code of a made-up response. -/
def SyntheticStatus.code : SyntheticStatus → String
  | unknown => "520"
  | connectionError => "521"
  | connectionTimeout => "522"
  | unreachable => "523"
  | timeout => "524"

/-- Why a round trip brought no response. -/
inductive Failure where
  /-- There is no connection. -/
  | dial (why : DialFailure)
  /-- The secure handshake went wrong. -/
  | handshake (host reason : String)
  /-- The secure handshake did not end in time. -/
  | handshakeTimeout (host : String)
  /-- The request could not be written in time. -/
  | writeTimeout (limit : Duration)
  /-- The request could not be written. -/
  | write (reason : String)
  /-- Nothing was answered in time. -/
  | readTimeout (limit : Duration)
  /-- Reading went wrong before anything was answered. -/
  | read (reason : String)
  /-- The connection ended before anything was answered. -/
  | closed
  deriving DecidableEq, Repr

namespace Failure

def message : Failure → String
  | dial why => why.message
  | handshake host reason => "TLS handshake with " ++ host ++ " failed: " ++ reason
  | handshakeTimeout host => "TLS handshake with " ++ host ++ " timed out"
  | writeTimeout limit => "write timed out after " ++ limit.text
  | write reason => "write failed: " ++ reason
  | readTimeout limit => "no response within " ++ limit.text
  | read reason => "read failed: " ++ reason
  | closed => "connection closed before any response bytes arrived"

def status : Failure → SyntheticStatus
  | dial (.unresolved _ _) | dial (.noAddress _) => .unreachable
  | dial (.timedOut _ _) | handshakeTimeout _ => .connectionTimeout
  | dial (.refused _ _) | handshake _ _ => .connectionError
  | writeTimeout _ | write _ | readTimeout _ => .timeout
  | read _ | closed => .unknown

end Failure
end HttpReplay
