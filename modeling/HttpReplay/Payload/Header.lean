import HttpReplay.Bytes
import HttpReplay.Text.Numeral

/-!
The header line of a payload.

A payload is one line of tokens followed by the message as it was on the wire:

    <kind> <correlation id> <timestamp>[ <latency>]⏎<message>

`Header.encode` writes the line and `Header.decode?` reads it back. The reader is the more
tolerant of the two: it skips repeated spaces and ignores tokens after the fourth, so many lines
decode to one header, of which `encode` writes the plainest. A line that does not decode is not an
error: whoever meets one passes the payload over.
-/

set_option autoImplicit false

namespace HttpReplay.Payload

/-- What a payload carries. -/
inductive Kind where
  /-- A captured request. -/
  | request
  /-- The response that the captured request got where it was captured. -/
  | originResponse
  /-- The response that the replayed request got. -/
  | replayedResponse
  deriving DecidableEq, Repr

namespace Kind

/-- The byte that stands for a kind on the header line. -/
def token : Kind → UInt8
  | request => 0x31
  | originResponse => 0x32
  | replayedResponse => 0x33

def ofToken? : Bytes → Option Kind
  | [0x31] => some request
  | [0x32] => some originResponse
  | [0x33] => some replayedResponse
  | _ => none

def name : Kind → String
  | request => "request"
  | originResponse => "origin-response"
  | replayedResponse => "replayed-response"

@[simp] theorem ofToken?_token (k : Kind) : ofToken? [k.token] = some k := by cases k <;> rfl

end Kind

/-- What the header line says. -/
structure Header where
  /-- What the payload carries. -/
  kind : Kind
  /-- The token that joins a request with its responses. -/
  id : Bytes
  /-- When the message was captured or answered, in nanoseconds since the epoch. -/
  timestamp : Int64
  /-- How long the answer took, in nanoseconds; absent on captured messages. -/
  latency : Option Int64
  deriving DecidableEq, Repr

namespace Header

/-- The header line. The id is written as it is, so an id that is empty or holds a space or a line
feed does not read back. -/
def encode (h : Header) : Bytes :=
  [h.kind.token, Bytes.space] ++ h.id ++ [Bytes.space] ++ Numeral.ofInt h.timestamp.toInt ++
    (match h.latency with
      | some latency => Bytes.space :: Numeral.ofInt latency.toInt
      | none => []) ++
    [Bytes.lf]

/-- The tokens of the first line: its pieces between spaces, empty ones left out. A string without
a line end has none. -/
def tokens (payload : Bytes) : List Bytes :=
  match Bytes.splitAtByte? Bytes.lf payload with
  | none => []
  | some (line, _) => (Bytes.pieces Bytes.space line).filter (!·.isEmpty)

/-- A token that is a 64-bit number. -/
def number? (token : Bytes) : Option Int64 := (Utf8.decode? token).bind Numeral.int64?

def ofTokens? : List Bytes → Option Header
  | kind :: id :: timestamp :: more => do
    let kind ← Kind.ofToken? kind
    let timestamp ← number? timestamp
    match more with
    | [] => some ⟨kind, id, timestamp, none⟩
    | latency :: _ => do
      let latency ← number? latency
      some ⟨kind, id, timestamp, some latency⟩
  | _ => none

/-- The header of a payload, where its first line spells one. -/
def decode? (payload : Bytes) : Option Header := ofTokens? (tokens payload)

/-- The id as text. -/
def idText (h : Header) : String := Utf8.lossy h.id

end Header

/-- A whole payload: the header line, then the message. -/
def encode (h : Header) (message : Bytes) : Bytes := h.encode ++ message

/-- The message of a payload, empty where there is no header line. -/
def message (payload : Bytes) : Bytes :=
  match Bytes.splitAtByte? Bytes.lf payload with
  | none => []
  | some (_, rest) => rest

/-- Whether a payload announces a captured request, by its first two bytes alone. -/
def isRequest (payload : Bytes) : Bool :=
  (Bytes.strip? [Kind.request.token, Bytes.space] payload).isSome

end HttpReplay.Payload
