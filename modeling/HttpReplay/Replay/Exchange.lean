import HttpReplay.Http.Message
import HttpReplay.Text.Quoted
import HttpReplay.Text.Utf8
import HttpReplay.Time.Calendar

/-!
What a replayed request was answered with, and the flat record of it that is kept for analysis.

The record holds text: whatever in a message is no text is replaced by the replacement character.
A field that the message lacks is empty, and some empty fields are left out of the written form.
-/

set_option autoImplicit false

namespace HttpReplay

/-- A request, its response, and when the one was sent and the other there. -/
structure Exchange where
  request : Bytes
  response : Bytes
  started : Moment
  stopped : Moment
  deriving DecidableEq, Repr

structure ExchangeRecord where
  host : String
  method : String
  url : String
  requestBody : String
  userAgent : String
  realIp : String
  forwardedFor : String
  connection : String
  cookies : String
  statusCode : String
  responseBody : String
  /-- What the response begins with, which is its version. -/
  protocol : String
  contentLength : String
  contentType : String
  setCookie : String
  /-- How long the answer took, in milliseconds. -/
  roundTripMillis : Int
  /-- When it was there. -/
  timestamp : String
  deriving DecidableEq, Repr

namespace Exchange

/-- The text of the first field with a name, empty if there is none. -/
def fieldText (name : String) (message : Bytes) : String :=
  match Http.header (Bytes.ofText name) message with
  | some value => Utf8.lossy value
  | none => ""

/-- The record of an exchange. There is none where the response is empty. -/
def record? (e : Exchange) : Option ExchangeRecord :=
  if e.response.isEmpty then none
  else some {
    host := fieldText "Host" e.request
    method := Utf8.lossy (Http.method e.request)
    url := Utf8.lossy (Http.path e.request)
    requestBody := Utf8.lossy (Http.body e.request)
    userAgent := fieldText "User-Agent" e.request
    realIp := fieldText "X-Real-IP" e.request
    forwardedFor := fieldText "X-Forwarded-For" e.request
    connection := fieldText "Connection" e.request
    cookies := fieldText "Cookie" e.request
    statusCode := match Http.status e.response with
      | some code => Utf8.lossy code
      | none => ""
    responseBody := Utf8.lossy (Http.body e.response)
    protocol := Utf8.lossy (Http.method e.response)
    contentLength := fieldText "Content-Length" e.response
    contentType := fieldText "Content-Type" e.response
    setCookie := fieldText "Set-Cookie" e.response
    roundTripMillis := Moment.millisBetween e.started e.stopped
    timestamp := e.stopped.isoText }

end Exchange

namespace ExchangeRecord

/-- A text member of the written form. -/
def member (name value : String) : List String := [Quoted.encode name ++ ":" ++ Quoted.encode value]

/-- A text member that is left out when it is empty. -/
def optionalMember (name value : String) : List String :=
  if value.isEmpty then [] else member name value

/-- The members of the written form, in order. -/
def members (r : ExchangeRecord) : List String :=
  member "Req_Host" r.host ++
  member "Req_Method" r.method ++
  member "Req_URL" r.url ++
  member "Req_Body" r.requestBody ++
  member "Req_User-Agent" r.userAgent ++
  member "Req_X-Real-IP" r.realIp ++
  member "Req_X-Forwarded-For" r.forwardedFor ++
  optionalMember "Req_Connection" r.connection ++
  optionalMember "Req_Cookies" r.cookies ++
  member "Resp_Status-Code" r.statusCode ++
  member "Resp_Body" r.responseBody ++
  optionalMember "Resp_Proto" r.protocol ++
  optionalMember "Resp_Content-Length" r.contentLength ++
  optionalMember "Resp_Content-Type" r.contentType ++
  optionalMember "Resp_Set-Cookie" r.setCookie ++
  [Quoted.encode "Round_Trip_Ms" ++ ":" ++ toString r.roundTripMillis] ++
  member "Timestamp" r.timestamp

/-- The written form. -/
def text (r : ExchangeRecord) : String := "\x7b" ++ ",".intercalate r.members ++ "\x7d"

end ExchangeRecord

structure ExchangeEvent where
  /-- The status code of the response. -/
  status : String
  /-- The record as text. -/
  exchange : String
  deriving DecidableEq, Repr

namespace ExchangeEvent

/-- The words that such an event is logged with. -/
def message : String := "Replayed exchange"

/-- The event of an exchange, if it has one. -/
def ofExchange? (e : Exchange) : Option ExchangeEvent :=
  e.record?.map fun r => ⟨r.statusCode, r.text⟩

end ExchangeEvent
end HttpReplay
