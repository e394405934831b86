import HttpReplay.Bytes
import HttpReplay.Client.Failure
import HttpReplay.Time.Calendar

/-!
The response that stands for a failed round trip: a status line, the date and an empty body.

Every such response has the same length. A date that would not fit, which takes a year of more
than four digits, is replaced by a fixed one.
-/

set_option autoImplicit false

namespace HttpReplay.SyntheticStatus

/-- The date that stands where the present one does not fit. -/
def placeholderDate : Bytes := Bytes.ofText "Mon, 17 Aug 2015 14:10:11 GMT"

/-- The date of a made-up response. -/
def date (today : Moment) : Bytes :=
  let text := Bytes.ofText today.messageText
  if text.length = placeholderDate.length then text else placeholderDate

/-- A made-up response with this status, dated `today`. -/
def response (status : SyntheticStatus) (today : Moment) : Bytes :=
  Bytes.ofText "HTTP/1.1 " ++ Bytes.ofText status.code ++ Bytes.ofText " Accepted\r\nDate: " ++
    date today ++
    Bytes.ofText "\r\nContent-Length: 0\r\nContent-Type: text/plain; charset=utf-8\r\n\r\n"

end HttpReplay.SyntheticStatus
