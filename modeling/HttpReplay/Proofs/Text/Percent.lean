import HttpReplay.Proofs.Text.Utf8
import HttpReplay.Text.Percent

/-!
What percent-decoding keeps.

A byte that is neither a percent sign nor a hexadecimal digit is part of no encoded byte, so the
text around it is decoded as if it stood alone (`percentDecode_append_cons`). White space consists of
such bytes, and none of them can stand inside another character. So white space in a text is still
there when the text has been decoded, whatever has been decoded beside it (`mem_of_decode?`).
-/

set_option autoImplicit false

namespace HttpReplay.Text

/-! ## Plain bytes -/

/-- Whether a byte is part of no encoded one. -/
def IsPlain (b : UInt8) : Prop := b ≠ 0x25 ∧ hexDigit? b = none

variable {b x : UInt8} {s t : Bytes} {c : Char}

theorem percentByte?_of_isPlain (hb : IsPlain b) (s : Bytes) : percentByte? (b :: s) = none := by
  unfold percentByte?
  split
  next heq =>
    obtain ⟨rfl, -⟩ := List.cons.inj heq
    exact absurd rfl hb.1
  next => rfl

theorem percentDecode_cons (hb : IsPlain b) (s : Bytes) :
    percentDecode (b :: s) = b :: percentDecode s := by
  rw [percentDecode, percentByte?_of_isPlain hb]

/-- An encoded byte ends before a plain one. -/
theorem percentByte?_append (hb : IsPlain b) (x : UInt8) (s t : Bytes) :
    percentByte? (x :: (s ++ b :: t)) = percentByte? (x :: s) := by
  by_cases hx : x = 0x25
  · subst hx
    match s with
    | [] =>
      cases t with
      | nil => rfl
      | cons y t => simp [percentByte?, hb.2]
    | [high] => simp [percentByte?, hb.2]
    | high :: low :: s => rfl
  · have hnone (s : Bytes) : percentByte? (x :: s) = none := by
      unfold percentByte?
      split
      next heq => exact absurd (List.cons.inj heq).1 hx
      next => rfl
    rw [hnone, hnone]

/-- What an encoded byte is written with. -/
theorem length_of_percentByte? {byte : UInt8} (h : percentByte? (x :: s) = some byte) :
    2 ≤ s.length := by
  unfold percentByte? at h
  split at h
  next heq =>
    obtain ⟨-, rfl⟩ := List.cons.inj heq
    simp
  next => cases h

/-- **Decoding goes on before and after a plain byte as if nothing else were there.** -/
theorem percentDecode_append_cons (hb : IsPlain b) (s t : Bytes) :
    percentDecode (s ++ b :: t) = percentDecode s ++ b :: percentDecode t := by
  -- An encoded byte takes two digits with it, so the induction is on the length.
  induction hlength : s.length using Nat.strongRecOn generalizing s with
  | ind length ih =>
    cases s with
    | nil =>
      rw [List.nil_append, percentDecode_cons hb, percentDecode, List.nil_append]
    | cons x s =>
      rw [List.length_cons] at hlength
      rw [List.cons_append, percentDecode, percentByte?_append hb, percentDecode]
      cases hbyte : percentByte? (x :: s) with
      | none => exact congrArg (x :: ·) (ih s.length (by omega) s rfl)
      | some byte =>
        have hdigits := length_of_percentByte? hbyte
        dsimp only
        rw [List.drop_append_of_le_length hdigits, List.cons_append,
          ih (s.drop 2).length (by rw [List.length_drop]; omega) _ rfl]

theorem percentDecode_append (hs : ∀ b ∈ s, IsPlain b) (t : Bytes) :
    percentDecode (s ++ t) = s ++ percentDecode t := by
  induction s with
  | nil => rfl
  | cons b s ih =>
    rw [List.cons_append, percentDecode_cons (hs b List.mem_cons_self),
      ih fun x hx => hs x (List.mem_cons_of_mem b hx), List.cons_append]

/-! ## White space -/

/-- Digits lie between the white space of ASCII and all other characters. -/
theorem hexDigit?_eq_none (h : b.toNat < 0x30 ∨ 0x66 < b.toNat) : hexDigit? b = none := by
  have htable : ∀ n : Fin 256, n.val < 0x30 ∨ 0x66 < n.val →
      Numeral.digit? 16 (Char.ofNat n.val) = none := by decide +kernel
  exact htable ⟨b.toNat, b.toNat_lt⟩ h

theorem toNat_of_isBlank (hc : isBlank c = true) : c.toNat ≤ 0x20 ∨ 0x80 ≤ c.toNat := by
  simp only [isBlank, Bool.or_eq_true, Bool.and_eq_true, decide_eq_true_eq, beq_iff_eq] at hc
  omega

theorem isPlain_of_isBlank (hc : isBlank c = true) : ∀ b ∈ String.utf8EncodeChar c, IsPlain b := by
  intro b hb
  have hrange : b.toNat ≤ 0x20 ∨ 0x80 ≤ b.toNat := by
    have hclass := toNat_of_isBlank hc
    have hbyte := Utf8.toNat_of_mem_utf8EncodeChar hb
    omega
  refine ⟨?_, hexDigit?_eq_none (by omega)⟩
  rintro rfl
  exact absurd hrange (by decide)

/-- **White space in a text is still there when the text has been decoded.** -/
theorem mem_of_decode? {text : String} {cs : List Char} (hc : isBlank c = true)
    (hmem : c ∈ text.toList)
    (h : Utf8.decode? (percentDecode (Bytes.ofText text)) = some cs) : c ∈ cs := by
  obtain ⟨before, after, htext⟩ := List.append_of_mem hmem
  have hbytes : Bytes.ofText text = before.flatMap String.utf8EncodeChar ++
      (String.utf8EncodeChar c ++ after.flatMap String.utf8EncodeChar) := by
    rw [Bytes.ofText_eq, htext, List.flatMap_append, List.flatMap_cons]
  obtain ⟨b, more, hchar, -⟩ := Utf8.afterFirst_utf8EncodeChar c
  have hplain := isPlain_of_isBlank hc
  rw [hchar] at hplain
  have hmore : ∀ x ∈ more, IsPlain x := fun x hx => hplain x (List.mem_cons_of_mem b hx)
  rw [hbytes, hchar, List.cons_append, percentDecode_append_cons (hplain b List.mem_cons_self),
    percentDecode_append hmore, ← List.cons_append, ← hchar] at h
  obtain ⟨front, back, rfl⟩ := Utf8.exists_decode?_of_append_char h
  exact List.mem_append_right front List.mem_cons_self

end HttpReplay.Text
