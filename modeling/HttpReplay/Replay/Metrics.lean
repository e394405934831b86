import HttpReplay.Client.Basic
import HttpReplay.Text.Utf8

/-!
What replayed requests are counted under.
-/

set_option autoImplicit false

namespace HttpReplay.Reply

/-- The label under which a replayed request is counted: the status code of the response. -/
def statusLabel (r : Reply) : String :=
  match (Http.status r.response).bind Utf8.decode? with
  | some code => String.ofList code
  | none => "invalid"

/-- The status of a made-up response. -/
def synthetic? : Reply → Option SyntheticStatus
  | answered _ => none
  | failed why _ => some why.status

end HttpReplay.Reply
