/-!
Byte strings, and the few ways this library cuts them.

Captured traffic stays raw from end to end, so almost everything here is a question about where
a byte string is cut. A byte string is a list, because every cut is then a recursion on the data
and every statement about one is an equation between appended lists: `splitAtByte?` and
`splitAtPattern?` return the parts, never positions, and the lemmas beside them say that the
parts put together again are the string.
-/

set_option autoImplicit false

namespace HttpReplay

abbrev Bytes := List UInt8

namespace Bytes

/-- The UTF-8 bytes of a text. -/
def ofText (s : String) : Bytes := s.toUTF8.data.toList

/-! ## Named bytes -/

def tab : UInt8 := 0x09
/-- Line feed, the end of every line. -/
def lf : UInt8 := 0x0A
/-- Carriage return. -/
def cr : UInt8 := 0x0D
def space : UInt8 := 0x20
def colon : UInt8 := 0x3A
def semicolon : UInt8 := 0x3B
def slash : UInt8 := 0x2F

/-- The two bytes that end a line on the wire. -/
def crlf : Bytes := [cr, lf]

/-! ## Cutting at a byte -/

/-- The parts before and after the first byte that satisfies `p`, that byte left out. -/
def splitWhere? (p : UInt8 → Bool) : Bytes → Option (Bytes × Bytes)
  | [] => none
  | b :: rest =>
    if p b then some ([], rest)
    else (splitWhere? p rest).map fun (before, after) => (b :: before, after)

/-- The parts before and after the first `sep`. -/
def splitAtByte? (sep : UInt8) : Bytes → Option (Bytes × Bytes) :=
  splitWhere? (· == sep)

/-- Nothing but the byte found is lost. -/
theorem splitWhere?_eq_some {p : UInt8 → Bool} {s before after : Bytes}
    (h : splitWhere? p s = some (before, after)) :
    ∃ b, p b = true ∧ s = before ++ b :: after ∧ ∀ x ∈ before, p x = false := by
  induction s generalizing before with
  | nil => simp [splitWhere?] at h
  | cons c rest ih =>
    by_cases hc : p c = true
    · simp only [splitWhere?, hc, if_true, Option.some.injEq, Prod.mk.injEq] at h
      obtain ⟨rfl, rfl⟩ := h
      exact ⟨c, hc, rfl, by simp⟩
    · simp only [splitWhere?, hc] at h
      obtain ⟨⟨u, v⟩, huv, heq⟩ := Option.map_eq_some_iff.1 h
      simp only [Prod.mk.injEq] at heq
      obtain ⟨rfl, rfl⟩ := heq
      obtain ⟨b, hb, hrest, hnone⟩ := ih huv
      refine ⟨b, hb, by simp [hrest], ?_⟩
      intro x hx
      rcases List.mem_cons.1 hx with rfl | hx
      · simpa using hc
      · exact hnone x hx

/-- What follows the byte found is shorter than the whole. -/
theorem length_of_splitWhere? {p : UInt8 → Bool} {s before after : Bytes}
    (h : splitWhere? p s = some (before, after)) : after.length < s.length := by
  obtain ⟨b, -, rfl, -⟩ := splitWhere?_eq_some h
  simp only [List.length_append, List.length_cons]
  omega

theorem length_of_splitAtByte? {sep : UInt8} {s before after : Bytes}
    (h : splitAtByte? sep s = some (before, after)) : after.length < s.length :=
  length_of_splitWhere? h

/-! ## Cutting at a pattern -/

/-- The rest of `s` after `pattern`, when `s` starts with it. -/
def strip? (pattern s : Bytes) : Option Bytes := pattern.isPrefixOf? s

/-- The parts before and after the leftmost occurrence of `pattern`. -/
def splitAtPattern? (pattern : Bytes) : Bytes → Option (Bytes × Bytes)
  | [] => if pattern.isEmpty then some ([], []) else none
  | b :: rest =>
    match strip? pattern (b :: rest) with
    | some after => some ([], after)
    | none => (splitAtPattern? pattern rest).map fun (before, after) => (b :: before, after)

/-- Whether `pattern` occurs in `s`. -/
def hasPattern (pattern s : Bytes) : Bool := (splitAtPattern? pattern s).isSome

theorem strip?_eq_some {pattern s rest : Bytes} :
    strip? pattern s = some rest ↔ s = pattern ++ rest := by
  induction pattern generalizing s with
  | nil =>
    have hnil : strip? [] s = some s := by cases s <;> rfl
    rw [hnil, Option.some.injEq, List.nil_append]
  | cons p ps ih =>
    cases s with
    | nil => exact ⟨nofun, nofun⟩
    | cons b bs =>
      have hcons : strip? (p :: ps) (b :: bs) = if p == b then strip? ps bs else none := rfl
      by_cases h : p = b
      · subst h
        rw [hcons, if_pos (beq_self_eq_true p), ih]
        simp
      · have h' : ¬ b = p := fun e => h e.symm
        simp [hcons, h, h']

/-- Nothing but the pattern found is lost. -/
theorem splitAtPattern?_eq_some {pattern s before after : Bytes}
    (h : splitAtPattern? pattern s = some (before, after)) : s = before ++ pattern ++ after := by
  induction s generalizing before with
  | nil =>
    by_cases hp : pattern = []
    · simp [splitAtPattern?, hp] at h
      simp [hp, h.1, ← h.2]
    · simp [splitAtPattern?, hp] at h
  | cons b rest ih =>
    rw [splitAtPattern?] at h
    split at h
    · rename_i tail ht
      simp only [Option.some.injEq, Prod.mk.injEq] at h
      obtain ⟨rfl, rfl⟩ := h
      simpa using strip?_eq_some.1 ht
    · obtain ⟨⟨u, v⟩, huv, heq⟩ := Option.map_eq_some_iff.1 h
      simp only [Prod.mk.injEq] at heq
      obtain ⟨rfl, rfl⟩ := heq
      simp [ih huv]

theorem length_of_splitAtPattern? {pattern s before after : Bytes} (hp : pattern ≠ [])
    (h : splitAtPattern? pattern s = some (before, after)) : after.length < s.length := by
  have hs := splitAtPattern?_eq_some h
  have : 0 < pattern.length := List.length_pos_iff.2 hp
  simp only [hs, List.length_append]
  omega

/-! ## Pieces between separators -/

/-- The pieces of `s` between the bytes `sep`: one more than there are separators. -/
def pieces (sep : UInt8) : Bytes → List Bytes
  | [] => [[]]
  | b :: rest =>
    if b = sep then [] :: pieces sep rest
    else match pieces sep rest with
      | [] => [[b]]
      | piece :: more => (b :: piece) :: more

/-! ## Letters and blanks -/

/-- The lower-case form of an ASCII letter; every other byte stands for itself. -/
def lowerByte (b : UInt8) : UInt8 := if 0x41 ≤ b ∧ b ≤ 0x5A then b + 0x20 else b

/-- The string with its ASCII letters in lower case. -/
def lower (s : Bytes) : Bytes := s.map lowerByte

/-- Equality that ignores the case of ASCII letters. -/
def sameLetters (s t : Bytes) : Bool := lower s == lower t

def isBlank (b : UInt8) : Bool := b == space || b == tab

/-- The blanks that `s` starts with, and the rest. -/
def spanBlanks (s : Bytes) : Bytes × Bytes := s.span isBlank

/-- `s` cut into its text and the blanks that end it. -/
def splitTrailingBlanks (s : Bytes) : Bytes × Bytes :=
  let (blanks, text) := s.reverse.span isBlank
  (text.reverse, blanks.reverse)

/-- `s` without the blanks at either end. -/
def trimBlanks (s : Bytes) : Bytes := (splitTrailingBlanks (spanBlanks s).2).1

end Bytes
end HttpReplay
