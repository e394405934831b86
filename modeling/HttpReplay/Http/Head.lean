import HttpReplay.Bytes
import HttpReplay.Text.Utf8

/-!
The grammar of message heads.

A head is a start line and fields, ended by an empty line. Unlike the views of a message, this
grammar refuses: it says of a byte string whether it starts with a head (`Scan.found`), could
still become one (`Scan.cut`), or never will (`Scan.refused`). The three are exclusive for good:
bytes added at the end change only the middle verdict. That is why every rule asks for bytes one at
a time and gives the verdict `cut` exactly where it finds none.

Line ends are a line feed with or without a carriage return before it. At most `maxFields` fields
are kept; a head with more of them is refused as `crowded`, which callers may tell apart, since
such a message is a real one that is merely large.
-/

set_option autoImplicit false

namespace HttpReplay.Http

/-- Why bytes are no head. -/
inductive Refusal where
  /-- A byte that the grammar does not allow where it stands. -/
  | malformed
  /-- More fields than are kept. -/
  | crowded
  deriving DecidableEq, Repr

/-- The verdict of a grammar rule on the start of a byte string. -/
inductive Scan (α : Type) where
  /-- The rule applies; the bytes after it are left. -/
  | found (value : α) (rest : Bytes)
  /-- The bytes end before the rule does. -/
  | cut
  /-- The rule does not apply, whatever follows. -/
  | refused (why : Refusal)
  deriving DecidableEq, Repr

namespace Scan

variable {α β : Type}

/-- One rule after another. -/
def andThen : Scan α → (α → Bytes → Scan β) → Scan β
  | found a rest, next => next a rest
  | cut, _ => cut
  | refused why, _ => refused why

/-- The same verdict on another value. -/
def map (f : α → β) : Scan α → Scan β
  | found a rest => found (f a) rest
  | cut => cut
  | refused why => refused why

/-- What a rule is after the bytes run out or are wrong. -/
abbrev bad : Scan α := refused .malformed

end Scan

/-! ## Classes of bytes -/

/-- Letters and digits. -/
def isAlphanumeric (b : UInt8) : Bool :=
  (0x30 ≤ b && b ≤ 0x39) || (0x41 ≤ b && b ≤ 0x5A) || (0x61 ≤ b && b ≤ 0x7A)

/-- Bytes of methods and field names. -/
def isToken (b : UInt8) : Bool := isAlphanumeric b || (Bytes.ofText "!#$%&'*+-.^_`|~").contains b

/-- Bytes of request targets: all but controls and the space. -/
def isTargetByte (b : UInt8) : Bool := 0x21 ≤ b && b != 0x7F

/-- Bytes of field values and reasons: tab, the space, and all that is no control. -/
def isValueByte (b : UInt8) : Bool := b == Bytes.tab || (0x20 ≤ b && b != 0x7F)

/-! ## Lines -/

/-- A line feed, with or without a carriage return before it. -/
def lineEnd : Bytes → Scan Unit
  | [] => .cut
  | b :: rest =>
    if b = Bytes.lf then .found () rest
    else if b = Bytes.cr then
      match rest with
      | [] => .cut
      | c :: tail => if c = Bytes.lf then .found () tail else .bad
    else .bad

/-- The empty lines that may stand before a message. -/
def emptyLines : Bytes → Scan Unit
  | [] => .cut
  | b :: rest =>
    if b = Bytes.lf then emptyLines rest
    else if b = Bytes.cr then
      match rest with
      | [] => .cut
      | c :: tail => if c = Bytes.lf then emptyLines tail else .bad
    else .found () (b :: rest)

/-- The bytes of a class and the byte after them, which has to be there. -/
def spanThen (p : UInt8 → Bool) : Bytes → Scan (Bytes × UInt8)
  | [] => .cut
  | b :: rest =>
    if p b then (spanThen p rest).map fun (run, stop) => (b :: run, stop)
    else .found ([], b) rest

/-- One or more bytes of a class, and then `stop`. -/
def runThen (p : UInt8 → Bool) (stop : UInt8) (s : Bytes) : Scan Bytes :=
  (spanThen p s).andThen fun (run, b) rest =>
    if run.isEmpty || b != stop then .bad else .found run rest

def valueLine (s : Bytes) : Scan Bytes :=
  (spanThen isValueByte s).andThen fun (run, b) rest =>
    (lineEnd (b :: rest)).map fun _ => run

/-! ## Start lines -/

/-- The minor version, after which eight bytes are used up. A shorter string is cut only if it
could still become a version. -/
def version (s : Bytes) : Scan Nat :=
  match Bytes.strip? (Bytes.ofText "HTTP/1.") s with
  | some (digit :: rest) =>
    if digit = 0x30 then .found 0 rest else if digit = 0x31 then .found 1 rest else .bad
  | some [] => .cut
  | none => if s.length < 8 ∧ s.isPrefixOf (Bytes.ofText "HTTP/1.") then .cut else .bad

structure RequestLine where
  method : Bytes
  target : Bytes
  /-- The digit after `HTTP/1.`. -/
  minor : Nat
  deriving DecidableEq, Repr

/-- The first line of a request: method, target and version, one space between them. -/
def requestLine (s : Bytes) : Scan RequestLine :=
  (runThen isToken Bytes.space s).andThen fun method s =>
  (runThen isTargetByte Bytes.space s).andThen fun target s =>
  if (Utf8.decode? target).isNone then .bad
  else (version s).andThen fun minor s =>
    (lineEnd s).map fun _ => ⟨method, target, minor⟩

def digit : Bytes → Scan Nat
  | [] => .cut
  | b :: rest => if 0x30 ≤ b ∧ b ≤ 0x39 then .found (b.toNat - 0x30) rest else .bad

/-- The first line of a response. -/
structure StatusLine where
  /-- The digit after `HTTP/1.`. -/
  minor : Nat
  code : Nat
  deriving DecidableEq, Repr

/-- What may follow the status code: a space and a reason, or nothing. -/
def reason : Bytes → Scan Unit
  | [] => .cut
  | b :: rest =>
    if b = Bytes.space then (valueLine rest).map fun _ => () else lineEnd (b :: rest)

/-- The first line of a response: version, code and, if it has one, reason. -/
def statusLine (s : Bytes) : Scan StatusLine :=
  (version s).andThen fun minor s =>
  match s with
  | [] => .cut
  | b :: s =>
    if b ≠ Bytes.space then .bad
    else
      (digit s).andThen fun hundreds s =>
      (digit s).andThen fun tens s =>
      (digit s).andThen fun units s =>
      (reason s).map fun _ => ⟨minor, hundreds * 100 + tens * 10 + units⟩

/-! ## Fields -/

structure Field where
  /-- The name, as it is written. -/
  name : Bytes
  /-- The value, without blanks around it. -/
  value : Bytes
  deriving DecidableEq, Repr

/-- The fields that are kept of one head. -/
def maxFields : Nat := 64

/-- One field: a name, a colon straight after it, and the value to the end of the line. -/
def field (s : Bytes) : Scan Field :=
  (runThen isToken Bytes.colon s).andThen fun name s =>
  (valueLine s).map fun value => ⟨name, Bytes.trimBlanks value⟩

theorem length_spanThen {p : UInt8 → Bool} {s rest : Bytes} {out : Bytes × UInt8}
    (h : spanThen p s = .found out rest) : rest.length < s.length := by
  induction s generalizing out with
  | nil => simp [spanThen] at h
  | cons b tail ih =>
    rw [spanThen] at h
    split at h
    · cases hs : spanThen p tail with
      | found a r =>
        simp only [hs, Scan.map, Scan.found.injEq] at h
        obtain ⟨-, rfl⟩ := h
        exact Nat.lt_succ_of_lt (ih hs)
      | cut => simp [hs, Scan.map] at h
      | refused why => simp [hs, Scan.map] at h
    · simp at h
      simp [h.2]

theorem length_lineEnd {s rest : Bytes} (h : lineEnd s = .found () rest) :
    rest.length < s.length := by
  cases s with
  | nil => simp [lineEnd] at h
  | cons b tail =>
    simp only [lineEnd] at h
    split at h
    · simp at h; simp [h]
    · split at h
      · cases tail with
        | nil => simp at h
        | cons c more =>
          simp only at h
          split at h
          · simp only [Scan.found.injEq, true_and] at h
            rw [← h]
            exact Nat.lt_succ_of_lt (Nat.lt_succ_self _)
          · simp at h
      · simp at h

theorem length_runThen {p : UInt8 → Bool} {stop : UInt8} {s rest out : Bytes}
    (h : runThen p stop s = .found out rest) : rest.length < s.length := by
  unfold runThen at h
  cases hs : spanThen p s with
  | found a r =>
    simp only [hs, Scan.andThen] at h
    split at h
    · simp at h
    · simp at h
      exact h.2 ▸ length_spanThen hs
  | cut => simp [hs, Scan.andThen] at h
  | refused why => simp [hs, Scan.andThen] at h

theorem length_valueLine {s rest out : Bytes} (h : valueLine s = .found out rest) :
    rest.length < s.length := by
  unfold valueLine at h
  cases hs : spanThen isValueByte s with
  | found a r =>
    simp only [hs, Scan.andThen] at h
    cases hl : lineEnd (a.2 :: r) with
    | found u r' =>
      simp [hl, Scan.map] at h
      have h1 := length_lineEnd hl
      have h2 := length_spanThen hs
      simp at h1
      rw [← h.2]
      omega
    | cut => simp [hl, Scan.map] at h
    | refused why => simp [hl, Scan.map] at h
  | cut => simp [hs, Scan.andThen] at h
  | refused why => simp [hs, Scan.andThen] at h

theorem length_field {s rest : Bytes} {f : Field} (h : field s = .found f rest) :
    rest.length < s.length := by
  unfold field at h
  cases hn : runThen isToken Bytes.colon s with
  | found name r =>
    simp only [hn, Scan.andThen] at h
    cases hv : valueLine r with
    | found value r' =>
      simp [hv, Scan.map] at h
      have h1 := length_runThen hn
      have h2 := length_valueLine hv
      rw [← h.2]
      omega
    | cut => simp [hv, Scan.map] at h
    | refused why => simp [hv, Scan.map] at h
  | cut => simp [hn, Scan.andThen] at h
  | refused why => simp [hn, Scan.andThen] at h

/-- The fields up to the empty line, of which `room` more are kept. -/
def fields (room : Nat) (s : Bytes) : Scan (List Field) :=
  match s with
  | [] => .cut
  | b :: tail =>
    if b = Bytes.cr ∨ b = Bytes.lf then (lineEnd (b :: tail)).map fun _ => []
    else match h : field (b :: tail) with
      | .cut => .cut
      | .refused why => .refused why
      | .found f rest =>
        match room with
        | 0 => .refused .crowded
        | room + 1 =>
          have := length_field h
          (fields room rest).map (f :: ·)
termination_by s.length
decreasing_by exact this

/-! ## Heads -/

/-- A head: its first line and its fields. -/
structure Head (α : Type) where
  start : α
  fields : List Field
  deriving DecidableEq, Repr

/-- A whole head with the given rule for its first line, empty lines before it skipped. -/
def head {α : Type} (start : Bytes → Scan α) (s : Bytes) : Scan (Head α) :=
  (emptyLines s).andThen fun _ s =>
  (start s).andThen fun first s =>
  (fields maxFields s).map fun fs => ⟨first, fs⟩

def requestHead (s : Bytes) : Scan (Head RequestLine) := head requestLine s

def responseHead (s : Bytes) : Scan (Head StatusLine) := head statusLine s

end HttpReplay.Http
