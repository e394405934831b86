import HttpReplay.Text.Utf8
import Mathlib.Tactic.IntervalCases

/-!
Text among bytes.

The bytes of a text decode to the text again (`decode?_flatMap_utf8EncodeChar`). An ASCII character
is one byte and no part of any other character, so ASCII text is decoded byte by byte. More
generally, no character has the first byte of another one inside, so a well-formed string may be cut
in front of such a byte anywhere, and either part decodes to its part of the characters
(`exists_decode?_of_append`).
-/

set_option autoImplicit false

namespace HttpReplay

/-- The bytes of a text are those of its characters. -/
theorem Bytes.ofText_eq (s : String) : ofText s = s.toList.flatMap String.utf8EncodeChar := by
  have hbytes : s.toByteArray = s.toList.utf8Encode := by
    rw [← String.toByteArray_ofList, String.ofList_toList]
  change s.toByteArray.data.toList = _
  rw [hbytes, List.utf8Encode]
  simp

namespace Utf8

/-! ## Text of ASCII characters -/

/-- An ASCII byte is a character. -/
theorem decode?_cons_ascii {b : UInt8} (h : b < 0x80) (s : Bytes) :
    decode? (b :: s) = (decode? s).map (Char.ofNat b.toNat :: ·) := by
  have hafter : afterFirst b s = (some (Char.ofNat b.toNat), s) := by rw [afterFirst, if_pos h]
  rw [decode?]
  split
  next c left heq =>
    rw [hafter] at heq
    cases heq
    rfl
  next heq =>
    rw [hafter] at heq
    cases heq

/-- Characters below 128 are bytes. -/
theorem decode?_ascii {cs : List Char} (h : ∀ c ∈ cs, c.toNat < 128) :
    decode? (cs.map fun c => c.toNat.toUInt8) = some cs := by
  induction cs with
  | nil =>
    rw [List.map_nil, decode?]
  | cons c cs ih =>
    have hc := h c List.mem_cons_self
    have hbyte : (c.toNat.toUInt8).toNat = c.toNat :=
      UInt8.toNat_ofNat_of_lt' (Nat.lt_trans hc (by decide))
    have hascii : c.toNat.toUInt8 < 0x80 := by
      rw [UInt8.lt_iff_toNat_lt, hbyte]
      exact hc
    rw [List.map_cons, decode?_cons_ascii hascii, ih fun c hc => h c (List.mem_cons_of_mem _ hc),
      hbyte, Char.ofNat_toNat, Option.map_some]

/-- Bytes of ASCII characters are text. -/
theorem isSome_decode?_of_ascii {s : Bytes} (h : ∀ b ∈ s, b < 0x80) : (decode? s).isSome = true := by
  induction s with
  | nil =>
    rw [decode?]
    rfl
  | cons b s ih =>
    rw [decode?_cons_ascii (h b List.mem_cons_self), Option.isSome_map]
    exact ih fun b hb => h b (List.mem_cons_of_mem _ hb)

/-! ## Characters and their bytes -/

variable {b c : UInt8} {s t left : Bytes}

theorem toNat_inner {n : Nat} (h : n < 64) : (UInt8.ofNat (n + 128)).toNat = n + 128 := by
  have hsize : n + 128 < UInt8.size := by
    change n + 128 < 256
    omega
  exact UInt8.toNat_ofNat_of_lt' hsize

/-- An inner byte has six bits of the character. -/
theorem continueWith_cons {n : Nat} (h : n < 64) (bits count : Nat) (s : Bytes) :
    continueWith bits (count + 1) (UInt8.ofNat (n + 128) :: s) =
      continueWith (bits * 64 + n) count s := by
  have hrange : 0x80 ≤ UInt8.ofNat (n + 128) ∧ UInt8.ofNat (n + 128) ≤ 0xBF := by
    simp only [UInt8.le_iff_toNat_le, toNat_inner h, UInt8.reduceToNat]
    omega
  rw [continueWith, if_pos hrange, toNat_inner h, Nat.add_sub_cancel]

theorem afterFirst_of_shape {shape : Shape} (hfirst : 0x80 ≤ b)
    (hshape : Shape.ofFirst? b = some shape) {n : Nat} (hn : n < 64)
    (hlow : shape.low.toNat ≤ n + 128) (hhigh : n + 128 ≤ shape.high.toNat) {code : Nat}
    (hcode : continueWith (shape.bits * 64 + n) shape.more s = (some code, left)) :
    afterFirst b (UInt8.ofNat (n + 128) :: s) = (some (Char.ofNat code), left) := by
  have hrange : shape.low ≤ UInt8.ofNat (n + 128) ∧ UInt8.ofNat (n + 128) ≤ shape.high := by
    simp only [UInt8.le_iff_toNat_le, toNat_inner hn]
    exact ⟨hlow, hhigh⟩
  rw [afterFirst, if_neg (UInt8.not_lt.2 hfirst), hshape]
  dsimp only
  rw [if_pos hrange, toNat_inner hn, Nat.add_sub_cancel, hcode]
  rfl

theorem Shape.ofFirst?_two {q : Nat} (hlow : 2 ≤ q) (hhigh : q < 32) :
    0x80 ≤ UInt8.ofNat (q + 192) ∧ ofFirst? (UInt8.ofNat (q + 192)) = some ⟨q, 0x80, 0xBF, 0⟩ := by
  interval_cases q <;> exact ⟨by decide, rfl⟩

theorem Shape.ofFirst?_three {q : Nat} (h : q < 16) :
    0x80 ≤ UInt8.ofNat (q + 224) ∧ ofFirst? (UInt8.ofNat (q + 224)) =
      some ⟨q, if q = 0 then 0xA0 else 0x80, if q = 13 then 0x9F else 0xBF, 1⟩ := by
  interval_cases q <;> exact ⟨by decide, rfl⟩

theorem Shape.ofFirst?_four {q : Nat} (h : q < 5) :
    0x80 ≤ UInt8.ofNat (q + 240) ∧ ofFirst? (UInt8.ofNat (q + 240)) =
      some ⟨q, if q = 0 then 0x90 else 0x80, if q = 4 then 0x8F else 0xBF, 2⟩ := by
  interval_cases q <;> exact ⟨by decide, rfl⟩

/-- A character is read off its bytes. -/
theorem afterFirst_utf8EncodeChar (c : Char) : ∃ b more, String.utf8EncodeChar c = b :: more ∧
    ∀ s, afterFirst b (more ++ s) = (some c, s) := by
  obtain ⟨v, hv⟩ : ∃ v, c.val.toNat = v := ⟨_, rfl⟩
  have hvalid : v < 0xD800 ∨ 0xDFFF < v ∧ v < 0x110000 := hv ▸ c.valid
  have hchar : Char.ofNat v = c := hv ▸ Char.ofNat_toNat c
  have hmod (n : Nat) : n % 64 < 64 := Nat.mod_lt n (by decide)
  rw [String.utf8EncodeChar, hv]
  by_cases hone : v ≤ 127
  · rw [if_pos hone]
    refine ⟨_, _, rfl, fun s => ?_⟩
    have hbyte : (UInt8.ofNat v).toNat = v :=
      UInt8.toNat_ofNat_of_lt' (Nat.lt_of_le_of_lt hone (by decide))
    have hascii : UInt8.ofNat v < 0x80 := by
      rw [UInt8.lt_iff_toNat_lt, hbyte]
      exact Nat.lt_succ_of_le hone
    rw [List.nil_append, afterFirst, if_pos hascii, hbyte, hchar]
  rw [if_neg hone]
  by_cases htwo : v ≤ 2047
  · rw [if_pos htwo]
    refine ⟨_, _, rfl, fun s => ?_⟩
    obtain ⟨hfirst, hshape⟩ := Shape.ofFirst?_two (q := v / 64 % 32) (by omega) (by omega)
    have hcode : v / 64 % 32 * 64 + v % 64 = v := by omega
    have hread : continueWith (v / 64 % 32 * 64 + v % 64) 0 s = (some v, s) := by
      rw [hcode, continueWith]
    have hfound := afterFirst_of_shape hfirst hshape (hmod v) (by simp) (by simp; omega) hread
    rwa [hchar] at hfound
  rw [if_neg htwo]
  by_cases hthree : v ≤ 65535
  · rw [if_pos hthree]
    refine ⟨_, _, rfl, fun s => ?_⟩
    obtain ⟨hfirst, hshape⟩ := Shape.ofFirst?_three (q := v / 4096 % 16) (by omega)
    have hcode : (v / 4096 % 16 * 64 + v / 64 % 64) * 64 + v % 64 = v := by omega
    have hread : continueWith (v / 4096 % 16 * 64 + v / 64 % 64) 1
        (UInt8.ofNat (v % 64 + 128) :: s) = (some v, s) := by
      rw [continueWith_cons (hmod v), hcode, continueWith]
    have hfound := afterFirst_of_shape hfirst hshape (hmod (v / 64))
      (by dsimp only; split <;> (simp; try omega)) (by dsimp only; split <;> (simp; omega)) hread
    rwa [hchar] at hfound
  · rw [if_neg hthree]
    refine ⟨_, _, rfl, fun s => ?_⟩
    obtain ⟨hfirst, hshape⟩ := Shape.ofFirst?_four (q := v / 262144 % 8) (by omega)
    have hcode : ((v / 262144 % 8 * 64 + v / 4096 % 64) * 64 + v / 64 % 64) * 64 + v % 64 = v := by
      omega
    have hread : continueWith (v / 262144 % 8 * 64 + v / 4096 % 64) 2
        (UInt8.ofNat (v / 64 % 64 + 128) :: UInt8.ofNat (v % 64 + 128) :: s) = (some v, s) := by
      rw [continueWith_cons (hmod _), continueWith_cons (hmod v), hcode, continueWith]
    have hfound := afterFirst_of_shape hfirst hshape (hmod (v / 4096))
      (by dsimp only; split <;> (simp; try omega)) (by dsimp only; split <;> (simp; omega)) hread
    rwa [hchar] at hfound

/-- ASCII characters are their bytes, and no byte of another character is ASCII. -/
theorem toNat_of_mem_utf8EncodeChar {c : Char} (h : b ∈ String.utf8EncodeChar c) :
    b.toNat = c.toNat ∨ 0x80 ≤ b.toNat ∧ 0x80 ≤ c.toNat := by
  change b.toNat = c.val.toNat ∨ 0x80 ≤ b.toNat ∧ 0x80 ≤ c.val.toNat
  rw [String.utf8EncodeChar] at h
  generalize c.val.toNat = v at h ⊢
  by_cases hone : v ≤ 127
  · rw [if_pos hone, List.mem_singleton] at h
    subst h
    rw [UInt8.toNat_ofNat']
    omega
  · rw [if_neg hone] at h
    refine .inr ⟨?_, by omega⟩
    repeat' split at h
    all_goals
      simp only [List.mem_cons, List.not_mem_nil, or_false] at h
      rcases h with rfl | rfl | rfl | rfl <;> (rw [UInt8.toNat_ofNat']; omega)

theorem decode?_utf8EncodeChar_append (c : Char) (s : Bytes) :
    decode? (String.utf8EncodeChar c ++ s) = (decode? s).map (c :: ·) := by
  obtain ⟨b, more, hbytes, hafter⟩ := afterFirst_utf8EncodeChar c
  rw [hbytes, List.cons_append, decode?]
  split
  next d left heq =>
    rw [hafter] at heq
    cases heq
    rfl
  next heq =>
    rw [hafter] at heq
    cases heq

/-- **The bytes of a text decode to the text.** -/
theorem decode?_flatMap_utf8EncodeChar (cs : List Char) :
    decode? (cs.flatMap String.utf8EncodeChar) = some cs := by
  induction cs with
  | nil => rw [List.flatMap_nil, decode?]
  | cons c cs ih => rw [List.flatMap_cons, decode?_utf8EncodeChar_append, ih, Option.map_some]

/-! ## Cuts in front of a first byte -/

/-- Whether a byte can only stand inside a character. -/
def IsInner (b : UInt8) : Prop := 0x80 ≤ b ∧ b ≤ 0xBF

instance (b : UInt8) : Decidable (IsInner b) := inferInstanceAs (Decidable (_ ∧ _))

/-- The second byte of a character is an inner one. -/
theorem Shape.isInner {shape : Shape} (h : Shape.ofFirst? b = some shape) (hlow : shape.low ≤ c)
    (hhigh : c ≤ shape.high) : IsInner c := by
  have hbounds : 0x80 ≤ shape.low ∧ shape.high ≤ 0xBF := by
    unfold Shape.ofFirst? at h
    repeat' split at h
    all_goals simp only [Option.some.injEq, reduceCtorEq] at h
    all_goals
      subst h
      dsimp only
      decide
  exact ⟨UInt8.le_trans hbounds.1 hlow, UInt8.le_trans hhigh hbounds.2⟩

/-- So are those after it. -/
theorem continueWith_append (hc : ¬ IsInner c) {bits count code : Nat}
    (h : continueWith bits count (s ++ c :: t) = (some code, left)) : ∃ s', left = s' ++ c :: t := by
  induction count generalizing bits s with
  | zero =>
    obtain ⟨-, rfl⟩ := Prod.mk.inj h
    exact ⟨s, rfl⟩
  | succ count ih =>
    cases s with
    | nil =>
      rw [List.nil_append, continueWith, if_neg (show ¬ (0x80 ≤ c ∧ c ≤ 0xBF) from hc)] at h
      cases h
    | cons x s =>
      rw [List.cons_append, continueWith] at h
      split at h
      next => exact ih h
      next => cases h

theorem afterFirst_append (hc : ¬ IsInner c) {char : Char}
    (h : afterFirst b (s ++ c :: t) = (some char, left)) : ∃ s', left = s' ++ c :: t := by
  unfold afterFirst at h
  split at h
  next =>
    obtain ⟨-, rfl⟩ := Prod.mk.inj h
    exact ⟨s, rfl⟩
  next =>
    cases hshape : Shape.ofFirst? b with
    | none =>
      rw [hshape] at h
      cases h
    | some shape =>
      rw [hshape] at h
      cases s with
      | nil =>
        have hnot : ¬ (shape.low ≤ c ∧ c ≤ shape.high) :=
          fun hrange => hc (Shape.isInner hshape hrange.1 hrange.2)
        dsimp only [List.nil_append] at h
        rw [if_neg hnot] at h
        cases h
      | cons x s =>
        dsimp only [List.cons_append] at h
        split at h
        next =>
          obtain ⟨hcode, hleft⟩ := Prod.mk.inj h
          obtain ⟨code, hcode, -⟩ := Option.map_eq_some_iff.1 hcode
          exact continueWith_append hc (Prod.ext hcode hleft)
        next => cases h

/-- **A well-formed string may be cut in front of every byte that a character can start with.** -/
theorem exists_decode?_of_append (hc : ¬ IsInner c) {cs : List Char}
    (h : decode? (s ++ c :: t) = some cs) :
    ∃ front back, decode? (c :: t) = some back ∧ cs = front ++ back := by
  -- A character in front uses up at least one byte, and never this one.
  induction hlength : s.length using Nat.strongRecOn generalizing s cs with
  | ind length ih =>
    cases s with
    | nil => exact ⟨[], cs, h, rfl⟩
    | cons b s =>
      rw [List.cons_append, decode?] at h
      split at h
      next char left hfirst =>
        obtain ⟨s', rfl⟩ := afterFirst_append hc hfirst
        obtain ⟨rest, hrest, rfl⟩ := Option.map_eq_some_iff.1 h
        have hbound := length_of_afterFirst hfirst
        simp only [List.length_cons, List.length_append] at hbound hlength
        obtain ⟨front, back, hback, rfl⟩ := ih s'.length (by omega) hrest rfl
        exact ⟨char :: front, back, hback, rfl⟩
      next => cases h

/-- No inner byte is a first one. -/
theorem not_isInner_of_afterFirst {char : Char} (h : afterFirst b s = (some char, left)) :
    ¬ IsInner b := by
  rintro ⟨hlow, hhigh⟩
  have hshape : Shape.ofFirst? b = none := by
    simp only [UInt8.le_iff_toNat_le, UInt8.reduceToNat] at hlow hhigh
    unfold Shape.ofFirst?
    simp only [UInt8.le_iff_toNat_le, UInt8.reduceToNat, ← UInt8.toNat_inj]
    repeat rw [if_neg (by omega)]
  rw [afterFirst, if_neg (UInt8.not_lt.2 hlow), hshape] at h
  cases h

/-- Between other bytes a character is read as it is, or nothing is. -/
theorem exists_decode?_of_append_char {char : Char} {cs : List Char}
    (h : decode? (s ++ (String.utf8EncodeChar char ++ t)) = some cs) :
    ∃ front back, cs = front ++ char :: back := by
  obtain ⟨first, more, hbytes, hafter⟩ := afterFirst_utf8EncodeChar char
  have hfirst : ¬ IsInner first := not_isInner_of_afterFirst (hafter [])
  rw [hbytes, List.cons_append] at h
  obtain ⟨front, back, hback, rfl⟩ := exists_decode?_of_append hfirst h
  rw [← List.cons_append, ← hbytes, decode?_utf8EncodeChar_append] at hback
  obtain ⟨rest, -, rfl⟩ := Option.map_eq_some_iff.1 hback
  exact ⟨front, rest, rfl⟩

theorem isSome_decode?_of_append (hc : ¬ IsInner c) (h : (decode? (s ++ c :: t)).isSome = true) :
    (decode? (c :: t)).isSome = true := by
  obtain ⟨cs, hcs⟩ := Option.isSome_iff_exists.1 h
  obtain ⟨-, back, hback, -⟩ := exists_decode?_of_append hc hcs
  exact Option.isSome_of_mem hback

end Utf8
end HttpReplay
