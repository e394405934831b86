import HttpReplay.Bytes

/-!
Reading bytes as UTF-8 text, strictly or with replacement.

Both readers ask the same question of a byte string: does it start with a well-formed character,
and if not, how much of it could have been the start of one? `Utf8.head` answers it. The strict
reader `Utf8.decode?` refuses at the first ill-formed byte; the lenient reader `Utf8.decodeLossy`
puts one U+FFFD in place of every longest prefix that a character could have started with, so a
character cut short counts once and a byte that starts no character counts once.
-/

set_option autoImplicit false

namespace HttpReplay.Utf8

/-- The shape of a character of several bytes, as its first byte fixes it. -/
structure Shape where
  /-- The bits that the first byte contributes. -/
  bits : Nat
  /-- The least second byte: above `0x80` where a shorter form exists. -/
  low : UInt8
  /-- The greatest second byte: below `0xBF` where surrogates or the end of the range are near. -/
  high : UInt8
  /-- Bytes after the second. -/
  more : Nat

/-- The shape that a byte starts, for bytes that start a character of several bytes. -/
def Shape.ofFirst? (b : UInt8) : Option Shape :=
  if 0xC2 ≤ b ∧ b ≤ 0xDF then some ⟨b.toNat - 0xC0, 0x80, 0xBF, 0⟩
  else if b = 0xE0 then some ⟨0, 0xA0, 0xBF, 1⟩
  else if b = 0xED then some ⟨0x0D, 0x80, 0x9F, 1⟩
  else if 0xE1 ≤ b ∧ b ≤ 0xEF then some ⟨b.toNat - 0xE0, 0x80, 0xBF, 1⟩
  else if b = 0xF0 then some ⟨0, 0x90, 0xBF, 2⟩
  else if 0xF1 ≤ b ∧ b ≤ 0xF3 then some ⟨b.toNat - 0xF0, 0x80, 0xBF, 2⟩
  else if b = 0xF4 then some ⟨4, 0x80, 0x8F, 2⟩
  else none

/-- The bits `bits` continued by `count` bytes in `0x80 … 0xBF`: the whole number if all are
there, and what is left of the string in either case. -/
def continueWith (bits : Nat) : Nat → Bytes → Option Nat × Bytes
  | 0, s => (some bits, s)
  | _ + 1, [] => (none, [])
  | count + 1, b :: rest =>
    if 0x80 ≤ b ∧ b ≤ 0xBF then continueWith (bits * 64 + (b.toNat - 0x80)) count rest
    else (none, b :: rest)

theorem length_continueWith (bits count : Nat) (s : Bytes) :
    (continueWith bits count s).2.length ≤ s.length := by
  induction count generalizing bits s with
  | zero => simp [continueWith]
  | succ n ih =>
    cases s with
    | nil => simp [continueWith]
    | cons b rest =>
      rw [continueWith]
      split
      · exact Nat.le_trans (ih _ _) (by simp)
      · simp

/-- The character after a first byte `b`, or nothing where the bytes are ill-formed, and the
string after the bytes that were used. -/
def afterFirst (b : UInt8) (rest : Bytes) : Option Char × Bytes :=
  if b < 0x80 then (some (Char.ofNat b.toNat), rest)
  else match Shape.ofFirst? b with
    | none => (none, rest)
    | some shape =>
      match rest with
      | [] => (none, [])
      | c :: tail =>
        if shape.low ≤ c ∧ c ≤ shape.high then
          let (code, left) := continueWith (shape.bits * 64 + (c.toNat - 0x80)) shape.more tail
          (code.map Char.ofNat, left)
        else (none, c :: tail)

theorem length_afterFirst (b : UInt8) (rest : Bytes) :
    (afterFirst b rest).2.length ≤ rest.length := by
  by_cases ascii : b < 0x80
  · simp [afterFirst, ascii]
  · simp only [afterFirst, ascii, if_false]
    cases Shape.ofFirst? b with
    | none => simp
    | some shape =>
      cases rest with
      | nil => simp
      | cons c tail =>
        simp only
        split
        · exact Nat.le_trans (length_continueWith _ _ _) (by simp)
        · simp

/-- What is left after a character is shorter than the whole. -/
theorem length_of_afterFirst {b : UInt8} {rest left : Bytes} {c : Option Char}
    (h : afterFirst b rest = (c, left)) : left.length < (b :: rest).length := by
  have bound := length_afterFirst b rest
  rw [h] at bound
  exact Nat.lt_succ_of_le bound

/-- The characters of a well-formed string. -/
def decode? : Bytes → Option (List Char)
  | [] => some []
  | b :: rest =>
    match h : afterFirst b rest with
    | (some c, left) =>
      have := length_of_afterFirst h
      (decode? left).map (c :: ·)
    | (none, _) => none
termination_by s => s.length
decreasing_by exact this

/-- What stands for bytes that are no character. -/
def replacement : Char := '\uFFFD'

/-- The characters of any string, with a replacement for each ill-formed part. -/
def decodeLossy : Bytes → List Char
  | [] => []
  | b :: rest =>
    match h : afterFirst b rest with
    | (c, left) =>
      have := length_of_afterFirst h
      c.getD replacement :: decodeLossy left
termination_by s => s.length
decreasing_by exact this

def lossy (s : Bytes) : String := String.ofList (decodeLossy s)

end HttpReplay.Utf8
