import HttpReplay.Unicode.Table

/-!
Punycode: texts of any characters in the letters, digits and hyphens of host names.

The written form has the ASCII characters first, then a hyphen if there are any, then numbers that
say where the others go. The others are inserted in ascending order, and where several places and
characters could come next they are counted through: a number is how many possibilities are passed
over before the next insertion. Numbers have digits of the base 36, the least digit first, and a
digit below its threshold ends a number. The thresholds follow the size of the numbers before,
which keeps the numbers of one script short.

No loop has a fuel: the bias is computed by recursion on the number that it is scaled down from,
a numeral by recursion on its value, and decoding by recursion on what is left to read.
-/

set_option autoImplicit false

namespace HttpReplay.Net.Punycode

/-! ## Numerals -/

def base : Nat := 36

/-- The greatest threshold; the least is one. -/
def highest : Nat := 26

def digit (d : Nat) : Char := if d < 26 then Char.ofNat (0x61 + d) else Char.ofNat (0x30 + (d - 26))

def digit? (c : Char) : Option Nat :=
  if 'a' ≤ c ∧ c ≤ 'z' then some (c.toNat - 0x61)
  else if 'A' ≤ c ∧ c ≤ 'Z' then some (c.toNat - 0x41)
  else if '0' ≤ c ∧ c ≤ '9' then some (c.toNat - 0x30 + 26)
  else none

/-- The threshold of the digit at position `k`, positions being counted in steps of the base. -/
def threshold (bias k : Nat) : Nat := max 1 (min highest (k - bias))

theorem threshold_pos (bias k : Nat) : 1 ≤ threshold bias k := Nat.le_max_left _ _

/-- A numeral's digits from position `k` on. -/
def numeral (bias k n : Nat) : List Char :=
  let t := threshold bias k
  if n < t then [digit n]
  else digit (t + (n - t) % (base - t)) :: numeral bias (k + base) ((n - t) / (base - t))
termination_by n
decreasing_by
  have positive := threshold_pos bias k
  have := Nat.div_le_self (n - threshold bias k) (base - threshold bias k)
  omega

/-- No number reaches this limit, nor does the worth of a digit. -/
def limit : Nat := UInt32.size

/-- The value of a numeral whose digits from position `k` on are read, each worth `weight` times
its value, and the text after it. -/
def readNumeral (bias k weight acc : Nat) : List Char → Option (Nat × List Char)
  | [] => none
  | c :: rest =>
    (digit? c).bind fun d =>
      let t := threshold bias k
      if limit ≤ acc + d * weight then none
      else if d < t then some (acc + d * weight, rest)
      else if limit ≤ weight * (base - t) then none
      else readNumeral bias (k + base) (weight * (base - t)) (acc + d * weight) rest

theorem length_readNumeral (bias k weight acc : Nat) (cs : List Char) (n : Nat)
    (rest : List Char) (h : readNumeral bias k weight acc cs = some (n, rest)) :
    rest.length < cs.length := by
  induction cs generalizing k weight acc with
  | nil => simp [readNumeral] at h
  | cons c tail ih =>
    simp only [readNumeral, Option.bind_eq_some_iff] at h
    obtain ⟨d, -, h⟩ := h
    split at h
    · simp at h
    split at h
    · simp only [Option.some.injEq, Prod.mk.injEq] at h
      simp [← h.2]
    split at h
    · simp at h
    · have := ih _ _ _ h
      simp only [List.length_cons]
      omega

/-! ## Bias -/

/-- How often a number is scaled down until it is small, in steps of the base, and what is left. -/
def scaleDown (n : Nat) : Nat × Nat :=
  if (base - 1) * highest / 2 < n then
    let (steps, left) := scaleDown (n / (base - 1))
    (steps + base, left)
  else (0, n)
termination_by n
decreasing_by exact Nat.div_lt_self (by omega) (by decide)

/-- The bias after a number, given how many characters there are now and whether the number was
the first. -/
def adapt (n count : Nat) (isFirst : Bool) : Nat :=
  let damped := if isFirst then n / 700 else n / 2
  let (steps, left) := scaleDown (damped + damped / count)
  steps + base * left / (left + 38)

/-- The bias before the first number. -/
def firstBias : Nat := 72

/-- The first code point that is not ASCII. -/
def firstCode : Nat := 0x80

/-! ## Encoding -/

/-- Where an encoder stands: what it has written, the bias, the number of characters that are
accounted for, and the possibilities passed over since the last of them. -/
structure Encoder where
  written : List Char
  bias : Nat
  count : Nat
  passed : Nat

namespace Encoder

/-- Goes past one character of the text while characters of code `code` are inserted. -/
def pass (ascii code : Nat) (e : Encoder) (c : Char) : Encoder :=
  if c.toNat < code then { e with passed := e.passed + 1 }
  else if c.toNat = code then
    { written := e.written ++ numeral e.bias base e.passed
      bias := adapt e.passed (e.count + 1) (e.count == ascii)
      count := e.count + 1
      passed := 0 }
  else e

/-- Inserts the characters of the given codes, which ascend and of which the least is at least
`code`. -/
def insertAll (text : List Char) (ascii : Nat) : Nat → List Nat → Encoder → Encoder
  | _, [], e => e
  | code, next :: rest, e =>
    let e := { e with passed := e.passed + (next - code) * (e.count + 1) }
    let e := text.foldl (pass ascii next) e
    insertAll text ascii (next + 1) rest { e with passed := e.passed + 1 }

end Encoder

/-- The written form of a text. -/
def encode (text : List Char) : List Char :=
  let ascii := text.filter (·.toNat < firstCode)
  let codes := ((text.map (·.toNat)).filter (firstCode ≤ ·)).mergeSort.eraseDups
  let front := if ascii.isEmpty then [] else ascii ++ ['-']
  (Encoder.insertAll text ascii.length firstCode codes ⟨front, firstBias, ascii.length, 0⟩).written

/-! ## Decoding -/

/-- Whether a number is the code point of a character. -/
def isCharacter (n : Nat) : Bool := n < 0xD800 || (0xDFFF < n && n < 0x110000)

/-- Inserts what is left to read says into a text, where `place` counts the possibilities for
characters of code `code`. -/
def insertRead (bias code place : Nat) (isFirst : Bool) (text : List Char) :
    List Char → Option (List Char)
  | [] => some text
  | c :: rest =>
    match h : readNumeral bias base 1 0 (c :: rest) with
    | none => none
    | some (n, left) =>
      have := length_readNumeral _ _ _ _ _ _ _ h
      let count := text.length + 1
      let code := code + (place + n) / count
      let place := (place + n) % count
      if isCharacter code then
        insertRead (adapt n count isFirst) code (place + 1) false
          (text.insertIdx place (Char.ofNat code)) left
      else none
termination_by cs => cs.length
decreasing_by exact this

/-- The text before the last hyphen and the text after it. A hyphen with nothing before it parts
nothing and is left in the text, which then is no numeral. -/
def lastHyphen (cs : List Char) : List Char × List Char :=
  let tail := cs.reverse.takeWhile (· != '-')
  let front := (cs.reverse.drop (tail.length + 1)).reverse
  if front.isEmpty then ([], cs) else (front, tail.reverse)

/-- The text of a written form. -/
def decode? (written : List Char) : Option (List Char) :=
  let (ascii, numbers) := lastHyphen written
  if ascii.all (·.toNat < firstCode) then insertRead firstBias firstCode 0 true ascii numbers
  else none

end HttpReplay.Net.Punycode
