import HttpReplay.Http.Head
import HttpReplay.Text.Numeral

/-!
Where a response ends.

A client that keeps its connection must know when the response is whole. `framing` decides it from
the bytes read so far: the head tells how the body is delimited (`Delimiter.ofHead`), and the body
is then held against that. A chunked transfer coding outranks every length wherever it stands, and
of several lengths the last one counts.
-/

set_option autoImplicit false

namespace HttpReplay.Http

/-- Whether the bytes so far are a whole response. -/
inductive Framing where
  /-- Part of the head or of the body is missing. -/
  | incomplete
  /-- The response is whole. -/
  | complete
  /-- The bytes do not say where the response ends. -/
  | unframed
  deriving DecidableEq, Repr

namespace Framing

def name : Framing → String
  | incomplete => "Incomplete"
  | complete => "Complete"
  | unframed => "Unframed"

end Framing

/-! ## Chunks -/

/-- The size on a chunk's size line: a hexadecimal numeral, blanks around it and everything from a
semicolon on ignored. -/
def chunkSize? (line : Bytes) : Option Nat :=
  Numeral.size? 16 (line.takeWhile (· != Bytes.semicolon))

/-- Whether the last chunk and the lines after it are all there: an empty line at once, or one
somewhere after other lines. -/
def trailerComplete (rest : Bytes) : Bool :=
  (Bytes.strip? Bytes.crlf rest).isSome || Bytes.hasPattern (Bytes.crlf ++ Bytes.crlf) rest

/-- Whether a body in chunks is all there. Each chunk is skipped by its size, so nothing in its
data is taken for a size line. -/
def chunksComplete (body : Bytes) : Bool :=
  match h : Bytes.splitAtPattern? Bytes.crlf body with
  | none => false
  | some (line, rest) =>
    match chunkSize? line with
    | none => false
    | some 0 => trailerComplete rest
    | some size =>
      have : rest.length - (size + 2) < body.length :=
        Nat.lt_of_le_of_lt (Nat.sub_le _ _) (Bytes.length_of_splitAtPattern? (by decide) h)
      if size + 2 ≤ rest.length then chunksComplete (rest.drop (size + 2)) else false
termination_by body.length

/-! ## What the head says -/

/-- How the end of a body is marked. -/
inductive Delimiter where
  | empty
  | chunks
  /-- The body has this many bytes. -/
  | length (size : Nat)
  | open
  deriving DecidableEq, Repr

def Field.announcesChunks (f : Field) : Bool :=
  Bytes.sameLetters f.name (Bytes.ofText "transfer-encoding") &&
    (Utf8.decode? f.value).isSome &&
    Bytes.hasPattern (Bytes.ofText "chunked") (Bytes.lower f.value)

def Field.announcesLength (f : Field) : Bool :=
  Bytes.sameLetters f.name (Bytes.ofText "content-length")

/-- The length that the last of the length fields gives, if it gives one. -/
def announcedLength? (fields : List Field) : Option Nat :=
  (fields.filter Field.announcesLength).getLast?.bind fun f => Numeral.size? 10 f.value

/-- Whether responses with this code never have a body. -/
def isBodiless (code : Nat) : Bool := (100 ≤ code && code < 200) || code == 204 || code == 304

/-- How the body after a head is delimited. -/
def Delimiter.ofHead (headRequest : Bool) (h : Head StatusLine) : Delimiter :=
  if headRequest || isBodiless h.start.code then .empty
  else if h.fields.any Field.announcesChunks then .chunks
  else match announcedLength? h.fields with
    | some size => .length size
    | none => .open

/-- The verdict on the part of a body that is there. -/
def Delimiter.framing (body : Bytes) : Delimiter → Framing
  | empty => .complete
  | chunks => if chunksComplete body then .complete else .incomplete
  | length size => if size ≤ body.length then .complete else .incomplete
  | .open => .unframed

/-- **Whether the bytes so far are a whole response** to a request that did (`headRequest`) or did
not ask for the head alone. -/
def framing (headRequest : Bool) (data : Bytes) : Framing :=
  match responseHead data with
  | .cut => .incomplete
  | .refused _ => .unframed
  | .found h body => (Delimiter.ofHead headRequest h).framing body

/-- The verdicts along the growing prefixes of `data`, each with the length it first holds at. -/
def framingRuns (headRequest : Bool) (data : Bytes) : List (Framing × Nat) :=
  let verdicts := (List.range (data.length + 1)).map fun n => (framing headRequest (data.take n), n)
  verdicts.foldr (fun v runs => match runs with
    | [] => [v]
    | next :: rest => if v.1 = next.1 then v :: rest else v :: next :: rest) []

/-! ## Requests -/

/-- The methods that mark a request as one, each with the space after it. -/
def methodPrefixes : List Bytes :=
  ["GET ", "POST ", "PUT ", "DELETE ", "HEAD ", "OPTIONS ", "PATCH ", "CONNECT ", "TRACE "].map
    Bytes.ofText

/-- Whether bytes start like a request that can be replayed. A request may be cut short, and it
may carry more fields than are kept. -/
def isRequest (data : Bytes) : Bool :=
  methodPrefixes.any (fun m => (Bytes.strip? m data).isSome) &&
    match requestHead data with
    | .found _ _ | .cut | .refused .crowded => true
    | .refused .malformed => false

end HttpReplay.Http
