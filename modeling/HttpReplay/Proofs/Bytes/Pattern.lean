import HttpReplay.Bytes
import Mathlib.Data.List.Infix

/-!
Leftmost occurrences.

Where the leftmost occurrence of a pattern is, is said by what comes before it: no occurrence lies in
`before ++ pattern.dropLast`, which is all that an earlier one could lie in. Nothing is said there of
what comes after it, so a cut stays where it is when bytes are added at the end
(`splitAtPattern?_append_right`).
-/

set_option autoImplicit false

namespace HttpReplay.Bytes

variable {pattern s before after : Bytes}

theorem strip?_eq_none_iff : strip? pattern s = none ↔ ¬ pattern <+: s := by
  rw [Option.eq_none_iff_forall_ne_some]
  constructor
  · rintro h ⟨rest, hrest⟩
    exact h rest (strip?_eq_some.2 hrest.symm)
  · intro h rest hrest
    exact h ⟨rest, (strip?_eq_some.1 hrest).symm⟩

theorem splitAtPattern?_eq_none_iff (hpattern : pattern ≠ []) :
    splitAtPattern? pattern s = none ↔ ¬ pattern <:+: s := by
  induction s with
  | nil => simp [splitAtPattern?, hpattern]
  | cons b rest ih =>
    rw [splitAtPattern?, List.infix_cons_iff, not_or, ← strip?_eq_none_iff, ← ih]
    cases hstrip : strip? pattern (b :: rest) with
    | none => simp
    | some tail => simp

/-- A pattern is too long to lie in itself less its last byte. -/
theorem not_infix_dropLast (hpattern : pattern ≠ []) : ¬ pattern <:+: pattern.dropLast := by
  intro h
  have hlength := h.length_le
  have hpos := List.length_pos_iff.2 hpattern
  rw [List.length_dropLast] at hlength
  omega

/-- **The cut is at the leftmost occurrence:** no other ends before it does. -/
theorem not_infix_of_splitAtPattern? (hpattern : pattern ≠ [])
    (h : splitAtPattern? pattern s = some (before, after)) :
    ¬ pattern <:+: before ++ pattern.dropLast := by
  induction s generalizing before with
  | nil => simp [splitAtPattern?, hpattern] at h
  | cons b rest ih =>
    rw [splitAtPattern?] at h
    split at h
    next tail htail =>
      obtain ⟨rfl, rfl⟩ := Prod.mk.inj (Option.some.inj h)
      exact not_infix_dropLast hpattern
    next hnone =>
      obtain ⟨⟨u, v⟩, huv, heq⟩ := Option.map_eq_some_iff.1 h
      obtain ⟨rfl, rfl⟩ := Prod.mk.inj heq
      rw [List.cons_append, List.infix_cons_iff, not_or]
      refine ⟨fun hprefix => ?_, ih huv⟩
      -- What such an occurrence begins with would have been cut off at once.
      apply strip?_eq_none_iff.1 hnone
      rw [splitAtPattern?_eq_some huv, List.append_assoc]
      rw [← List.cons_append] at hprefix ⊢
      have hlonger : pattern.dropLast <+: pattern ++ v :=
        (List.dropLast_prefix pattern).trans (List.prefix_append pattern v)
      exact hprefix.trans ((List.prefix_append_right_inj _).2 hlonger)

/-- Where no occurrence ends before this one does, this is where the cut is. -/
theorem splitAtPattern?_append (hpattern : pattern ≠ [])
    (h : ¬ pattern <:+: before ++ pattern.dropLast) (after : Bytes) :
    splitAtPattern? pattern (before ++ pattern ++ after) = some (before, after) := by
  induction before with
  | nil =>
    obtain ⟨b, rest, rfl⟩ := List.exists_cons_of_ne_nil hpattern
    have hstrip : strip? (b :: rest) (b :: (rest ++ after)) = some after := strip?_eq_some.2 rfl
    rw [List.nil_append, List.cons_append, splitAtPattern?, hstrip]
  | cons b before ih =>
    rw [List.cons_append, List.infix_cons_iff, not_or] at h
    have hnone : strip? pattern (b :: (before ++ pattern ++ after)) = none := by
      rw [strip?_eq_none_iff]
      intro hprefix
      apply h.1
      -- It is no longer than what comes before the end of the known occurrence.
      refine List.prefix_of_prefix_length_le hprefix ?_ ?_
      · rw [List.append_assoc]
        have hlonger : pattern.dropLast <+: pattern ++ after :=
          (List.dropLast_prefix pattern).trans (List.prefix_append pattern after)
        exact (List.cons_prefix_cons.2 ⟨rfl, (List.prefix_append_right_inj _).2 hlonger⟩)
      · have hpos := List.length_pos_iff.2 hpattern
        rw [List.length_cons, List.length_append, List.length_dropLast]
        omega
    rw [List.cons_append, List.cons_append, splitAtPattern?, hnone, ih h.2]
    rfl

/-- **Bytes added at the end do not move the cut.** -/
theorem splitAtPattern?_append_right (hpattern : pattern ≠ [])
    (h : splitAtPattern? pattern s = some (before, after)) (more : Bytes) :
    splitAtPattern? pattern (s ++ more) = some (before, after ++ more) := by
  have hleftmost := not_infix_of_splitAtPattern? hpattern h
  rw [splitAtPattern?_eq_some h, List.append_assoc]
  exact splitAtPattern?_append hpattern hleftmost (after ++ more)

/-- Bytes in which no occurrence begins go to what comes before the cut. -/
theorem splitAtPattern?_append_left {lead : Bytes}
    (h : ∀ u, u <:+ lead → u ≠ [] → ¬ pattern <+: u ++ s) :
    splitAtPattern? pattern (lead ++ s) =
      (splitAtPattern? pattern s).map fun (before, after) => (lead ++ before, after) := by
  induction lead with
  | nil => simp
  | cons b lead ih =>
    have hnone : strip? pattern (b :: (lead ++ s)) = none :=
      strip?_eq_none_iff.2 (h (b :: lead) List.suffix_rfl (List.cons_ne_nil b lead))
    rw [List.cons_append, splitAtPattern?, hnone,
      ih fun u hu => h u (hu.trans (List.suffix_cons b lead)), Option.map_map]
    rfl

theorem hasPattern_iff (hpattern : pattern ≠ []) : hasPattern pattern s = true ↔ pattern <:+: s := by
  rw [hasPattern, Option.isSome_iff_ne_none, ne_eq, splitAtPattern?_eq_none_iff hpattern, not_not]

/-- Bytes without the first byte of a pattern keep no occurrence from being where it is. -/
theorem infix_append_iff_of_not_mem {b : UInt8} (h : b ∉ before) :
    b :: pattern <:+: before ++ after ↔ b :: pattern <:+: after := by
  induction before with
  | nil => rfl
  | cons c before ih =>
    obtain ⟨hne, hmem⟩ := not_or.1 (List.mem_cons.not.1 h)
    have hfirst : ¬ b :: pattern <+: c :: (before ++ after) :=
      fun hprefix => hne (List.cons_prefix_cons.1 hprefix).1
    rw [List.cons_append, List.infix_cons_iff, or_iff_right hfirst, ih hmem]

theorem isSome_strip?_iff : (strip? pattern s).isSome = true ↔ pattern <+: s := by
  rw [Option.isSome_iff_ne_none, ne_eq, strip?_eq_none_iff, not_not]

end HttpReplay.Bytes
