import HttpReplay.Proofs.Text.Utf8
import HttpReplay.Text.Numeral
import Mathlib.Data.Nat.Digits.Defs
import Mathlib.Tactic.Ring

/-!
Numerals that are written read back.

There are two ways to say how a numeral is written. This library writes decimal ones, with the digits
of core's `Nat.toDigits`, whose value core already knows (`int64?_charsOf`). Others write as they like:
in some base, letters in either case, with any number of zeros in front (`Spells`). Either way each
character is one ASCII byte, neither blank nor a sign, so the reader trims nothing and decodes every
byte for itself (`size?_of_spells`).
-/

set_option autoImplicit false

namespace HttpReplay

namespace Numeral

/-! ## Decimal numerals -/

theorem digit?_of_isDigit {c : Char} (h : c.isDigit = true) :
    digit? 10 c = some (c.toNat - '0'.toNat) := by
  simp only [Char.isDigit, Bool.and_eq_true, decide_eq_true_eq] at h
  have hlow : '0'.toNat ≤ c.toNat := h.1
  have hhigh : c.toNat ≤ '9'.toNat := h.2
  have hvalue : c.toNat - '0'.toNat < 10 := by
    change _ - 48 < _
    change c.toNat ≤ 57 at hhigh
    omega
  have hdigit : '0' ≤ c ∧ c ≤ '9' := ⟨h.1, h.2⟩
  simp only [digit?, if_pos hdigit, Option.filter_some, hvalue, decide_true, if_true]

theorem continue?_of_isDigit {cs : List Char} (h : ∀ c ∈ cs, c.isDigit = true) (acc : Nat) :
    continue? 10 acc cs = some (Nat.ofDigitChars 10 cs acc) := by
  induction cs generalizing acc with
  | nil => rfl
  | cons c cs ih =>
    rw [continue?, digit?_of_isDigit (h c List.mem_cons_self), Option.bind_some,
      ih fun c hc => h c (List.mem_cons_of_mem _ hc), Nat.ofDigitChars_cons, Nat.mul_comm]

/-- The digits of a natural number, as text. -/
theorem digits?_toDigits (n : Nat) : digits? 10 (Nat.toDigits 10 n) = some n := by
  have hvalue := continue?_of_isDigit
    (fun _ hc => Nat.isDigit_of_mem_toDigits (b := 10) (n := n) (by decide) (by decide) hc) 0
  rw [Nat.ofDigitChars_ten_toDigits] at hvalue
  cases hdigits : Nat.toDigits 10 n with
  | nil => exact absurd hdigits Nat.toDigits_ne_nil
  | cons c cs =>
    rw [hdigits] at hvalue
    exact hvalue

/-- The decimal numeral of an integer, as text. -/
def charsOf (n : Int) : List Char :=
  if n < 0 then '-' :: Nat.toDigits 10 n.natAbs else Nat.toDigits 10 n.natAbs

theorem integer?_charsOf (n : Int) : integer? (charsOf n) = some n := by
  unfold charsOf
  split
  next hneg =>
    rw [integer?, digits?_toDigits]
    change some (-(n.natAbs : Int)) = some n
    congr 1
    omega
  next hpos =>
    have hvalue := digits?_toDigits n.natAbs
    have hdigit := fun c hc =>
      Nat.isDigit_of_mem_toDigits (b := 10) (n := n.natAbs) (c := c) (by decide) (by decide) hc
    -- A digit is no sign.
    cases hdigits : Nat.toDigits 10 n.natAbs with
    | nil => exact absurd hdigits Nat.toDigits_ne_nil
    | cons c cs =>
      have hc := hdigit c (hdigits ▸ List.mem_cons_self)
      have hminus : c ≠ '-' := by
        rintro rfl
        cases hc
      have hplus : c ≠ '+' := by
        rintro rfl
        cases hc
      rw [integer?.eq_def]
      split
      next heq => exact absurd (List.cons.inj heq).1 hminus
      next heq => exact absurd (List.cons.inj heq).1 hplus
      next =>
        rw [← hdigits, hvalue]
        change some (n.natAbs : Int) = some n
        congr 1
        omega

theorem int64?_charsOf (n : Int64) : int64? (charsOf n.toInt) = some n := by
  rw [int64?, integer?_charsOf, Option.filter_some, if_pos, Option.map_some, Int64.ofInt_toInt]
  exact decide_eq_true ⟨Int64.minValue_le_toInt n, Int64.toInt_le n⟩

theorem ofInt_eq (n : Int) : ofInt n = (charsOf n).map fun c => c.toNat.toUInt8 := by
  unfold ofInt charsOf
  split <;> rfl

/-- The characters of a numeral are signs and digits. -/
theorem mem_charsOf {n : Int} {c : Char} (h : c ∈ charsOf n) : c = '-' ∨ c.isDigit = true := by
  have hdigit {m : Nat} (h : c ∈ Nat.toDigits 10 m) : c.isDigit = true :=
    Nat.isDigit_of_mem_toDigits (by decide) (by decide) h
  unfold charsOf at h
  split at h
  · obtain rfl | h := List.mem_cons.1 h
    · exact .inl rfl
    · exact .inr (hdigit h)
  · exact .inr (hdigit h)

/-- They are ASCII, and neither a space nor a line feed. -/
theorem toNat_of_mem_charsOf {n : Int} {c : Char} (h : c ∈ charsOf n) :
    33 ≤ c.toNat ∧ c.toNat < 128 := by
  obtain rfl | h := mem_charsOf h
  · decide
  · simp only [Char.isDigit, Bool.and_eq_true, decide_eq_true_eq] at h
    have hlow : 48 ≤ c.toNat := h.1
    have hhigh : c.toNat ≤ 57 := h.2
    omega

theorem mem_ofInt {n : Int} {b : UInt8} (h : b ∈ ofInt n) : 33 ≤ b.toNat := by
  rw [ofInt_eq] at h
  obtain ⟨c, hc, rfl⟩ := List.mem_map.1 h
  obtain ⟨hlow, hhigh⟩ := toNat_of_mem_charsOf hc
  rw [UInt8.toNat_ofNat_of_lt' (Nat.lt_trans hhigh (by decide))]
  exact hlow

theorem ofInt_ne_nil (n : Int) : ofInt n ≠ [] := by
  unfold ofInt ofNat
  split
  · exact List.cons_ne_nil _ _
  · simp [Nat.toDigits_ne_nil]

/-! ## Numerals of any base -/

/-- A character for the digit `d` of base `base`, a letter in either case. -/
def IsDigit (base : Nat) (c : Char) (d : Nat) : Prop :=
  d < base ∧ (c = Nat.digitChar d ∨ c = (Nat.digitChar d).toUpper)

instance (base : Nat) (c : Char) (d : Nat) : Decidable (IsDigit base c d) :=
  inferInstanceAs (Decidable (_ ∧ _))

/-- **The bytes spell `n` in base `base`**: one or more digits of that base, each a character with its
value, the highest first and with any number of zeros in front. -/
def Spells (base : Nat) (numeral : Bytes) (n : Nat) : Prop :=
  ∃ digits : List (Char × Nat), digits ≠ [] ∧ (∀ x ∈ digits, IsDigit base x.1 x.2) ∧
    numeral = digits.map (fun x => x.1.toNat.toUInt8) ∧
    n = Nat.ofDigits base (digits.map (·.2)).reverse

variable {base n : Nat} {numeral : Bytes}

/-- All that the reader asks of a character of a numeral, checked for each digit. -/
theorem IsDigit.read {c : Char} {d : Nat} (h : IsDigit base c d) (hbase : base ≤ 16) :
    digit? base c = some d ∧ c.toNat < 128 ∧ Text.isBlank c = false ∧ c ≠ '+' := by
  have hchecked : ∀ d < 16, [Nat.digitChar d, (Nat.digitChar d).toUpper].all fun c =>
      digit? 16 c = some d ∧ c.toNat < 128 ∧ Text.isBlank c = false ∧ c ≠ '+' := by decide
  obtain ⟨hd, hc⟩ := h
  obtain ⟨hvalue, hrest⟩ :=
    of_decide_eq_true (List.all_eq_true.1 (hchecked d (by omega)) c (by simpa using hc))
  refine ⟨?_, hrest⟩
  -- In a smaller base the same value has to pass a stricter bound.
  unfold digit? at hvalue ⊢
  exact Option.filter_eq_some_iff.2 ⟨(Option.filter_eq_some_iff.1 hvalue).1, by simpa using hd⟩

/-- The digits in order, each shifting what was read before it. -/
theorem continue?_of_isDigit_base (hbase : base ≤ 16) {digits : List (Char × Nat)}
    (h : ∀ x ∈ digits, IsDigit base x.1 x.2) (acc : Nat) :
    continue? base acc (digits.map (·.1)) =
      some (Nat.ofDigits base (digits.map (·.2)).reverse + base ^ digits.length * acc) := by
  induction digits generalizing acc with
  | nil => simp [continue?]
  | cons x digits ih =>
    have hread := ((h x List.mem_cons_self).read hbase).1
    rw [List.map_cons, continue?, hread, Option.bind_some,
      ih fun x hx => h x (List.mem_cons_of_mem _ hx), List.map_cons, Nat.ofDigits_reverse_cons,
      List.length_map, List.length_cons]
    congr 1
    ring

theorem trimChars_of_not_blank {cs : List Char} (h : ∀ c ∈ cs, Text.isBlank c = false) :
    Text.trimChars cs = cs := by
  have hdrop {cs : List Char} (h : ∀ c ∈ cs, Text.isBlank c = false) :
      cs.dropWhile Text.isBlank = cs := by
    cases cs with
    | nil => rfl
    | cons c cs => rw [List.dropWhile_cons_of_neg (by simp [h c List.mem_cons_self])]
  rw [Text.trimChars, hdrop h, hdrop fun c hc => h c (List.mem_reverse.1 hc), List.reverse_reverse]

/-- **What is spelled is read**, in bases up to sixteen and as far as a machine can count. -/
theorem size?_of_spells (hbase : base ≤ 16) (h : Spells base numeral n) (hn : n ≤ maxSize) :
    size? base numeral = some n := by
  obtain ⟨digits, hne, hdigits, rfl, rfl⟩ := h
  have hchars : ∀ c ∈ digits.map (·.1), c.toNat < 128 ∧ Text.isBlank c = false ∧ c ≠ '+' := by
    intro c hc
    obtain ⟨x, hx, rfl⟩ := List.mem_map.1 hc
    exact ((hdigits x hx).read hbase).2
  have hvalue := continue?_of_isDigit_base hbase hdigits 0
  have hbytes : digits.map (fun x => x.1.toNat.toUInt8) =
      (digits.map (·.1)).map fun c => c.toNat.toUInt8 := by
    rw [List.map_map]
    rfl
  rw [Nat.mul_zero, Nat.add_zero] at hvalue
  rw [size?, hbytes, Utf8.decode?_ascii fun c hc => (hchars c hc).1, Option.bind_some,
    trimChars_of_not_blank fun c hc => (hchars c hc).2.1]
  -- There is a first character, and it is no sign.
  obtain ⟨x, digits, rfl⟩ := List.exists_cons_of_ne_nil hne
  have hplus : x.1 ≠ '+' := (hchars x.1 (by simp)).2.2
  rw [List.map_cons] at hvalue ⊢
  rw [natural?.eq_def]
  split
  next heq => exact absurd (List.cons.inj heq).1 hplus
  next =>
    rw [digits?, hvalue, Option.filter_some, if_pos (decide_eq_true hn)]
    exact List.cons_ne_nil _ _

/-- The bytes of a numeral are letters and digits. -/
theorem Spells.of_mem (hbase : base ≤ 16) (h : Spells base numeral n) {b : UInt8}
    (hb : b ∈ numeral) : 0x30 ≤ b ∧ b ≤ 0x39 ∨ 0x41 ≤ b ∧ b ≤ 0x66 := by
  have hchecked : ∀ d < 16, [Nat.digitChar d, (Nat.digitChar d).toUpper].all fun c =>
      let b := c.toNat.toUInt8; 0x30 ≤ b ∧ b ≤ 0x39 ∨ 0x41 ≤ b ∧ b ≤ 0x66 := by decide
  obtain ⟨digits, -, hdigits, rfl, -⟩ := h
  obtain ⟨x, hx, rfl⟩ := List.mem_map.1 hb
  obtain ⟨hd, hc⟩ := hdigits x hx
  exact of_decide_eq_true (List.all_eq_true.1 (hchecked x.2 (by omega)) x.1 (by simpa using hc))

end Numeral
end HttpReplay
