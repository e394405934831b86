import HttpReplay.Bytes

/-!
Views and edits of raw HTTP/1.x messages.

Nothing here asks whether a message is valid: each view is a cut of the bytes that exists for
every byte string, and each edit leaves every byte outside the cut as it was. The header view is
built on `locate?`, which returns the value of a field *with everything before and after it*, so
reading a field and replacing its value are one search and cannot disagree about the place.
-/

set_option autoImplicit false

namespace HttpReplay.Http

/-! ## Start line -/

/-- The bytes before the first space: the method of a request, the version of a response. -/
def method (message : Bytes) : Bytes :=
  match Bytes.splitAtByte? Bytes.space message with
  | some (before, _) => before
  | none => []

/-- Whether a byte ends a line: carriage return or line feed. -/
def isLineEnd (b : UInt8) : Bool := b == Bytes.cr || b == Bytes.lf

/-- The request target: what stands between the first and the second space of the first line. -/
def path (message : Bytes) : Bytes :=
  let line := message.takeWhile (!isLineEnd ·)
  match Bytes.splitAtByte? Bytes.space line with
  | some (_, rest) => rest.takeWhile (· != Bytes.space)
  | none => []

/-- The three bytes where a response has its status code. -/
def status (message : Bytes) : Option Bytes :=
  if 12 ≤ message.length ∧ (Bytes.strip? (Bytes.ofText "HTTP/") message).isSome then
    some ((message.drop 9).take 3)
  else none

/-- Whether a request asks for the head of the response alone. -/
def isHeadRequest (message : Bytes) : Bool :=
  (Bytes.strip? (Bytes.ofText "HEAD ") message).isSome

/-! ## Body -/

/-- The end of the lines above the body. -/
def blankLine : Bytes := Bytes.crlf ++ Bytes.crlf

/-- Everything after the first blank line. -/
def body (message : Bytes) : Bytes :=
  match Bytes.splitAtPattern? blankLine message with
  | some (_, rest) => rest
  | none => []

/-! ## Fields -/

/-- The value of a field inside a message, with the bytes on either side of it. -/
structure Place where
  /-- Everything before the value. -/
  before : Bytes
  /-- The value, without the blanks around it. -/
  value : Bytes
  /-- Everything after the value. -/
  after : Bytes
  deriving DecidableEq, Repr

namespace Place

def whole (p : Place) : Bytes := p.before ++ p.value ++ p.after

/-- The same place with more bytes in front. -/
def behind (lead : Bytes) (p : Place) : Place := { p with before := lead ++ p.before }

end Place

/-- A line without its line feed, cut into its text and the one carriage return that may end it. -/
def splitLineEnd (line : Bytes) : Bytes × Bytes :=
  if line.getLast? = some Bytes.cr then (line.dropLast, [Bytes.cr]) else (line, [])

/-- The place of the value on one line, when the line is a field of that name. -/
def locateOnLine? (name text : Bytes) : Option Place :=
  match Bytes.splitAtByte? Bytes.colon text with
  | none => none
  | some (fieldName, rest) =>
    if Bytes.sameLetters fieldName name then
      let (lead, rest) := Bytes.spanBlanks rest
      let (value, trail) := Bytes.splitTrailingBlanks rest
      some ⟨fieldName ++ [Bytes.colon] ++ lead, value, trail⟩
    else none

/-- The place of the first field called `name` in a block of lines. Every line ends in a line
feed; an empty line ends the block, and a line without a colon is passed over. -/
def locateInBlock? (name block : Bytes) : Option Place :=
  match h : Bytes.splitAtByte? Bytes.lf block with
  | none => none
  | some (line, rest) =>
    have := Bytes.length_of_splitAtByte? h
    let (text, ending) := splitLineEnd line
    if text.isEmpty then none
    else match locateOnLine? name text with
      | some place => some { place with after := place.after ++ ending ++ [Bytes.lf] ++ rest }
      | none => (locateInBlock? name rest).map (·.behind (line ++ [Bytes.lf]))
termination_by block.length

/-- The place of the first field called `name`, the start line not counted. -/
def locate? (name message : Bytes) : Option Place :=
  match Bytes.splitAtByte? Bytes.lf message with
  | none => none
  | some (startLine, block) =>
    (locateInBlock? name block).map (·.behind (startLine ++ [Bytes.lf]))

/-- The value of the first field called `name`, letters compared without regard to case. -/
def header (name message : Bytes) : Option Bytes := (locate? name message).map (·.value)

/-- The message with `value` as the value of the field `name`: in place of the first such field's
value, or on a new line after the start line. A message without a line end is left alone. -/
def setHeader (name value message : Bytes) : Bytes :=
  match locate? name message with
  | some place => { place with value := value }.whole
  | none =>
    match Bytes.splitAtByte? Bytes.lf message with
    | none => message
    | some (startLine, rest) =>
      startLine ++ [Bytes.lf] ++ name ++ [Bytes.colon, Bytes.space] ++ value ++ Bytes.crlf ++ rest

/-! ## Pointing a request at a host -/

/-- The rest of a target after the scheme of an absolute address. -/
def afterScheme? (target : Bytes) : Option Bytes :=
  Bytes.strip? (Bytes.ofText "http://") target <|> Bytes.strip? (Bytes.ofText "https://") target

/-- What a server is asked for: an absolute address is reduced to its part from the first slash
after the scheme, or to the root where it has none; any other target stands as it is. -/
def originForm (target : Bytes) : Bytes :=
  match afterScheme? target with
  | none => target
  | some rest =>
    match Bytes.splitAtByte? Bytes.slash rest with
    | some (_, path) => Bytes.slash :: path
    | none => [Bytes.slash]

/-- A request cut into what stands before its target, the target, and the rest. The target ends at
a space or a line end; where nothing ends it, the request has none. -/
def splitTarget? (request : Bytes) : Option (Bytes × Bytes × Bytes) :=
  match Bytes.splitAtByte? Bytes.space request with
  | none => none
  | some (before, rest) =>
    let (target, after) := rest.span fun b => !(b == Bytes.space || isLineEnd b)
    if after.isEmpty then none else some (before ++ [Bytes.space], target, after)

/-- The request with its target in origin form. -/
def reduceTarget (request : Bytes) : Bytes :=
  match splitTarget? request with
  | none => request
  | some (before, target, after) => before ++ originForm target ++ after

/-- The name of the field that says which host a request is for. -/
def hostField : Bytes := Bytes.ofText "Host"

/-- The request as it is sent to `authority`: target in origin form, Host replaced or added. -/
def setHost (authority request : Bytes) : Bytes :=
  setHeader hostField authority (reduceTarget request)

end HttpReplay.Http
