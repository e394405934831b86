import HttpReplay.Payload.Header
import HttpReplay.Time.Calendar

/-!
Payloads that were not captured but made up, to try a pipeline out.

Each gets an id of its own: 32 hexadecimal digits, which hold no space and no line feed, so that the
header always reads back.
-/

set_option autoImplicit false

namespace HttpReplay.Payload

/-- The id with a certain number, in 32 digits. -/
def generatedId (number : Nat) : Bytes :=
  let digits := Nat.toDigits 16 (number % Nat.pow 16 32)
  (List.replicate (32 - digits.length) '0' ++ digits).map fun c => c.toLower.toNat.toUInt8

/-- Whether an id looks like one of ours. -/
def isGeneratedId (id : Bytes) : Bool :=
  id.length == 32 && id.all fun b => (0x30 ≤ b && b ≤ 0x39) || (0x61 ≤ b && b ≤ 0x66)

/-- A request as a payload, under a generated id. -/
def ofRequest (number : Nat) (now : Moment) (request : Bytes) : Bytes :=
  encode ⟨.request, generatedId number, now.stamp, none⟩ request

/-- A request without a body. -/
def getRequest : Bytes := Bytes.ofText "GET / HTTP/1.1\r\n\r\n"

def postRequest : Bytes :=
  Bytes.ofText "POST /pub/WWW/ HTTP/1.1\r\nHost: www.w3.org\r\nContent-Length: 7\r\n\r\na=1&b=2"

def optionsRequest : Bytes := Bytes.ofText "OPTIONS / HTTP/1.1\r\nHost: www.w3.org\r\n\r\n"

end HttpReplay.Payload
