import HttpReplay.Bytes
import Mathlib.Data.List.TakeDrop
import Mathlib.Data.List.TakeWhile

/-!
Cuts, told by the parts.

A cut at the first `sep` is determined by its parts: they are put together again with `sep` between
them, and the first of them has none (`splitAtByte?_eq_some_iff`). So whoever knows how a byte string
was written knows where it is cut, and whoever has cut it knows how it could have been written. It is
the same with runs of bytes of a class at either end (`span_eq_iff`, `splitTrailingBlanks_eq_iff`).

A block of lines is read one line after the other, and what is left at the end, without a line feed,
is no line. Proofs about such readers follow the lines (`lines_induction`), however the reader itself
is written.
-/

set_option autoImplicit false

namespace HttpReplay.Bytes

variable {sep : UInt8} {s before after : Bytes}

/-! ## Parts -/

theorem splitAtByte?_append {s : Bytes} (h : sep ∉ s) (t : Bytes) :
    splitAtByte? sep (s ++ sep :: t) = some (s, t) := by
  unfold splitAtByte?
  induction s with
  | nil => simp [splitWhere?]
  | cons b s ih =>
    obtain ⟨hb, hs⟩ : sep ≠ b ∧ sep ∉ s := by simpa using h
    rw [List.cons_append, splitWhere?, if_neg (by simpa using Ne.symm hb), ih hs, Option.map_some]

theorem splitAtByte?_eq_none_iff : splitAtByte? sep s = none ↔ sep ∉ s := by
  unfold splitAtByte?
  induction s with
  | nil => simp [splitWhere?]
  | cons b s ih =>
    rw [splitWhere?]
    by_cases hb : b = sep
    · simp [hb]
    · simp [hb, ih, Ne.symm hb]

/-- **Where the cut is**: after a part without `sep`, in front of the rest. -/
theorem splitAtByte?_eq_some_iff :
    splitAtByte? sep s = some (before, after) ↔ s = before ++ sep :: after ∧ sep ∉ before := by
  constructor
  · intro h
    obtain ⟨b, hb, hs, hbefore⟩ := splitWhere?_eq_some h
    obtain rfl : b = sep := by simpa using hb
    exact ⟨hs, fun hmem => absurd (hbefore b hmem) (by simp)⟩
  · rintro ⟨rfl, hbefore⟩
    exact splitAtByte?_append hbefore after

/-- Two ways of writing a string around its first `sep` are one. -/
theorem append_cons_inj {before' after' : Bytes} (h : sep ∉ before) (h' : sep ∉ before')
    (heq : before ++ sep :: after = before' ++ sep :: after') : before = before' ∧ after = after' := by
  have hcut := splitAtByte?_append h after
  rw [heq, splitAtByte?_append h' after'] at hcut
  obtain ⟨rfl, rfl⟩ := Prod.mk.inj (Option.some.inj hcut)
  exact ⟨rfl, rfl⟩

/-! ## Runs at either end -/

/-- A run is cut off where a byte stands that is not of its class, if any does. -/
theorem span_eq_iff {p : UInt8 → Bool} :
    s.span p = (before, after) ↔
      s = before ++ after ∧ (∀ b ∈ before, p b = true) ∧ ∀ b ∈ after.head?, p b = false := by
  rw [List.span_eq_takeWhile_dropWhile, Prod.mk.injEq]
  constructor
  · rintro ⟨rfl, rfl⟩
    refine ⟨List.takeWhile_append_dropWhile.symm, fun b => List.mem_takeWhile_imp, fun b hb => ?_⟩
    have hstop := List.head?_dropWhile_not p s
    rw [Option.mem_def.1 hb] at hstop
    simpa using hstop
  · rintro ⟨rfl, hbefore, hafter⟩
    rw [List.takeWhile_append_of_pos hbefore, List.dropWhile_append_of_pos hbefore]
    cases after with
    | nil => simp
    | cons b after =>
      have hb : ¬ p b = true := by simp [hafter b rfl]
      simp [hb]

theorem spanBlanks_eq_iff :
    spanBlanks s = (before, after) ↔
      s = before ++ after ∧ (∀ b ∈ before, isBlank b = true) ∧ ∀ b ∈ after.head?, isBlank b = false :=
  span_eq_iff

theorem splitTrailingBlanks_eq_iff :
    splitTrailingBlanks s = (before, after) ↔
      s = before ++ after ∧ (∀ b ∈ after, isBlank b = true) ∧
        ∀ b ∈ before.getLast?, isBlank b = false := by
  -- The blanks at the end are those at the beginning of the reverse.
  have hspan : splitTrailingBlanks s = (before, after) ↔
      s.reverse.span isBlank = (after.reverse, before.reverse) := by
    rw [splitTrailingBlanks]
    cases s.reverse.span isBlank with
    | mk blanks text =>
      simp only [Prod.mk.injEq, List.reverse_eq_iff]
      exact and_comm
  rw [hspan, span_eq_iff, List.head?_reverse, ← List.reverse_append, List.reverse_inj]
  simp only [List.mem_reverse]

/-! ## Lines -/

/-- **Induction on the lines of a block:** what holds of a string without a line feed, and of a line in
front of a block that it holds of, holds of every string. -/
@[elab_as_elim]
theorem lines_induction {motive : Bytes → Prop} (block : Bytes) (last : ∀ s, lf ∉ s → motive s)
    (line : ∀ line rest, lf ∉ line → motive rest → motive (line ++ lf :: rest)) : motive block := by
  induction hlength : block.length using Nat.strongRecOn generalizing block with
  | ind length ih =>
    cases hcut : splitAtByte? lf block with
    | none => exact last block (splitAtByte?_eq_none_iff.1 hcut)
    | some parts =>
      obtain ⟨first, rest⟩ := parts
      obtain ⟨rfl, hfirst⟩ := splitAtByte?_eq_some_iff.1 hcut
      refine line first rest hfirst (ih rest.length ?_ rest rfl)
      rw [← hlength, List.length_append, List.length_cons]
      omega

/-! ## Pieces -/

theorem pieces_of_not_mem {s : Bytes} (h : sep ∉ s) : pieces sep s = [s] := by
  induction s with
  | nil => rfl
  | cons b s ih =>
    obtain ⟨hb, hs⟩ : sep ≠ b ∧ sep ∉ s := by simpa using h
    rw [pieces, if_neg (Ne.symm hb), ih hs]

/-- A piece comes out as it went in. -/
theorem pieces_append {s : Bytes} (h : sep ∉ s) (t : Bytes) :
    pieces sep (s ++ sep :: t) = s :: pieces sep t := by
  induction s with
  | nil => rw [List.nil_append, pieces, if_pos rfl]
  | cons b s ih =>
    obtain ⟨hb, hs⟩ : sep ≠ b ∧ sep ∉ s := by simpa using h
    rw [List.cons_append, pieces, if_neg (Ne.symm hb), ih hs]

/-- A piece holds no separator, and only bytes of the whole. -/
theorem of_mem_pieces {s piece : Bytes} (h : piece ∈ pieces sep s) :
    sep ∉ piece ∧ ∀ b ∈ piece, b ∈ s := by
  induction s generalizing piece with
  | nil =>
    obtain rfl := List.mem_singleton.1 h
    exact ⟨List.not_mem_nil, fun _ hb => absurd hb List.not_mem_nil⟩
  | cons c s ih =>
    have hwiden {piece : Bytes} (h : sep ∉ piece ∧ ∀ b ∈ piece, b ∈ s) :
        sep ∉ piece ∧ ∀ b ∈ piece, b ∈ c :: s :=
      ⟨h.1, fun b hb => List.mem_cons_of_mem _ (h.2 b hb)⟩
    rw [pieces] at h
    split at h
    next =>
      obtain rfl | h := List.mem_cons.1 h
      · exact ⟨List.not_mem_nil, fun _ hb => absurd hb List.not_mem_nil⟩
      · exact hwiden (ih h)
    next hc =>
      -- The first piece of the rest, if any, is the one that `c` goes to.
      have hgrow {first : Bytes} (h : sep ∉ first ∧ ∀ b ∈ first, b ∈ s) :
          sep ∉ c :: first ∧ ∀ b ∈ c :: first, b ∈ c :: s :=
        ⟨by simpa using ⟨Ne.symm hc, h.1⟩, fun b hb =>
          (List.mem_cons.1 hb).elim (fun hb => hb ▸ List.mem_cons_self) ((hwiden h).2 b)⟩
      split at h
      next =>
        obtain rfl := List.mem_singleton.1 h
        exact hgrow ⟨List.not_mem_nil, fun _ hb => absurd hb List.not_mem_nil⟩
      next first more hpieces =>
        obtain rfl | h := List.mem_cons.1 h
        · exact hgrow (ih (hpieces ▸ List.mem_cons_self))
        · exact hwiden (ih (hpieces ▸ List.mem_cons_of_mem _ h))

end HttpReplay.Bytes
