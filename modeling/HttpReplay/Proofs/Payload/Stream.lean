import HttpReplay.Payload.Stream
import HttpReplay.Proofs.Bytes.Pattern

/-!
What a stream of payloads gives back.

Reading cuts at the leftmost separator, so a payload comes back if no separator is met before the
one that was written after it. One could be met inside of the payload, and one could begin there and
end in the separator that follows: the separator begins with the byte that it ends with, and is then
completed by the first byte of the next. Nothing longer can be shared (`overlap`), because a
line feed is at both ends of the separator and nowhere else. So a payload is at risk only if it holds
the separator once a line feed is put after it, and that is the exact condition (`split_frame_iff`).
-/

set_option autoImplicit false

namespace HttpReplay

/-! ## The separator -/

namespace Payload

open Bytes (lf)

theorem separator_eq : separator.dropLast ++ [lf] = separator := by decide +kernel

/-- What the separator ends with and begins with, short of all of it, is a line feed or nothing. -/
theorem overlap {start rest : Bytes} (h : separator = start ++ rest)
    (hrest : rest <+: separator.dropLast) : rest = [] ∨ rest = [lf] := by
  have hchecked : ∀ k < separator.length + 1, separator.drop k <+: separator.dropLast →
      separator.drop k = [] ∨ separator.drop k = [lf] := by decide +kernel
  have hdrop : separator.drop start.length = rest := by
    rw [h, List.drop_left]
  have hstart : start.length < separator.length + 1 := by
    rw [h, List.length_append]
    omega
  rw [← hdrop] at hrest ⊢
  exact hchecked start.length hstart hrest

/-- A line feed after a payload completes a separator that the payload ends with all but the last
byte of. -/
theorem infix_concat_lf_iff {payload : Bytes} :
    separator <:+: payload ++ [lf] ↔
      separator <:+: payload ∨ separator.dropLast <:+ payload := by
  rw [List.infix_concat_iff, or_comm]
  have hlast : separator <:+ payload ++ [lf] ↔ separator.dropLast <:+ payload := by
    conv_lhs => rw [← separator_eq]
    rw [List.suffix_append_inj_of_length_eq rfl, and_iff_left rfl]
  rw [hlast]

/-- **The separator after a payload adds no earlier one** but by its first byte. -/
theorem infix_append_dropLast_iff {payload : Bytes} :
    separator <:+: payload ++ separator.dropLast ↔ separator <:+: payload ++ [lf] := by
  constructor
  · intro h
    rw [infix_concat_lf_iff]
    rcases List.infix_append_iff.1 h with h | h | ⟨start, rest, heq, hstart, hrest⟩
    · exact .inl h
    · exact absurd h (Bytes.not_infix_dropLast separator_ne_nil)
    · rcases overlap heq hrest with rfl | rfl
      · rw [List.append_nil] at heq
        exact .inl (heq ▸ hstart.isInfix)
      · rw [heq, List.dropLast_concat]
        exact .inr hstart
  · intro h
    have hfirst : [lf] <+: separator.dropLast := by decide +kernel
    exact h.trans ((List.prefix_append_right_inj payload).2 hfirst).isInfix

/-! ## Reading a stream -/

theorem frame_cons (payload : Bytes) (payloads : List Bytes) :
    frame (payload :: payloads) = payload ++ separator ++ frame payloads :=
  List.flatMap_cons

theorem split_of_none {stream : Bytes} (h : Bytes.splitAtPattern? separator stream = none) :
    split stream = [stream].filter (!·.isEmpty) := by
  rw [split]
  split
  next =>
    rw [List.filter_singleton]
    cases stream.isEmpty <;> rfl
  next hsome =>
    rw [h] at hsome
    cases hsome

theorem split_of_some {stream part rest : Bytes}
    (h : Bytes.splitAtPattern? separator stream = some (part, rest)) :
    split stream = [part].filter (!·.isEmpty) ++ split rest := by
  rw [split]
  split
  next hnone =>
    rw [h] at hnone
    cases hnone
  next hsome =>
    rw [h] at hsome
    obtain ⟨rfl, rfl⟩ := Prod.mk.inj (Option.some.inj hsome)
    rw [List.filter_singleton]
    cases part.isEmpty <;> rfl

/-- Reading cuts a payload off that no separator ends in before the one that follows it. -/
theorem split_append {payload : Bytes} (h : ¬ separator <:+: payload ++ [lf]) (rest : Bytes) :
    split (payload ++ separator ++ rest) = [payload].filter (!·.isEmpty) ++ split rest := by
  apply split_of_some
  apply Bytes.splitAtPattern?_append separator_ne_nil
  rwa [infix_append_dropLast_iff]

/-- **Where a part stands in a stream**: at the end, or in front of the first separator that there is from
the part's beginning on. -/
theorem exists_of_mem_split {stream part : Bytes} (h : part ∈ split stream) :
    part ≠ [] ∧ ∃ start, (stream = start ++ part ∧ ¬ separator <:+: part) ∨
      ∃ rest, stream = start ++ (part ++ separator ++ rest) ∧
        ¬ separator <:+: part ++ separator.dropLast := by
  induction stream using split.induct with
  | case1 stream hnone | case2 stream hnone =>
    rw [split_of_none hnone] at h
    obtain ⟨hpart, hne⟩ := List.mem_filter.1 h
    obtain rfl := List.mem_singleton.1 hpart
    have hnot := (Bytes.splitAtPattern?_eq_none_iff separator_ne_nil).1 hnone
    exact ⟨by simpa using hne, [], .inl ⟨rfl, hnot⟩⟩
  | case3 stream before rest hsome _ _ ih | case4 stream before rest hsome _ _ ih =>
    have hwhole := Bytes.splitAtPattern?_eq_some hsome
    rw [split_of_some hsome] at h
    obtain hbefore | hrest := List.mem_append.1 h
    · obtain ⟨hpart, hne⟩ := List.mem_filter.1 hbefore
      obtain rfl := List.mem_singleton.1 hpart
      have hleftmost := Bytes.not_infix_of_splitAtPattern? separator_ne_nil hsome
      exact ⟨by simpa using hne, [], .inr ⟨rest, hwhole, hleftmost⟩⟩
    · -- What comes before the rest comes before the part, too.
      obtain ⟨hne, start, ⟨hparts, hnot⟩ | ⟨more, hparts, hnot⟩⟩ := ih hrest
      · exact ⟨hne, before ++ separator ++ start, .inl ⟨by rw [hwhole, hparts]; simp, hnot⟩⟩
      · exact ⟨hne, before ++ separator ++ start, .inr ⟨more, by rw [hwhole, hparts]; simp, hnot⟩⟩

/-- No part of a stream holds the separator. -/
theorem not_infix_of_mem_split {stream part : Bytes} (h : part ∈ split stream) :
    ¬ separator <:+: part := by
  obtain ⟨-, start, ⟨-, hnot⟩ | ⟨rest, -, hnot⟩⟩ := exists_of_mem_split h
  · exact hnot
  · exact fun hinside => hnot (hinside.trans (List.prefix_append _ _).isInfix)

/-- A stream that begins with something else than a line feed has a part that does so, too. -/
theorem split_cons {b : UInt8} (hb : b ≠ lf) (stream : Bytes) :
    ∃ part parts, split (b :: stream) = (b :: part) :: parts := by
  cases hcut : Bytes.splitAtPattern? separator (b :: stream) with
  | none => exact ⟨stream, [], split_of_none hcut⟩
  | some cut =>
    obtain ⟨before, rest⟩ := cut
    have hwhole := Bytes.splitAtPattern?_eq_some hcut
    have hsplit := split_of_some hcut
    cases before with
    | nil =>
      -- The separator begins with a line feed.
      have hfirst : separator = lf :: separator.tail := by decide +kernel
      rw [hfirst] at hwhole
      exact absurd (List.cons.inj hwhole).1 hb
    | cons c before =>
      obtain ⟨rfl, -⟩ := List.cons.inj hwhole
      exact ⟨before, split rest, hsplit⟩

/-! ## Frames -/

/-- Payloads that complete no separator with a line feed come back. -/
theorem split_frame {payloads : List Bytes}
    (h : ∀ payload ∈ payloads, ¬ separator <:+: payload ++ [lf]) :
    split (frame payloads) = payloads.filter (!·.isEmpty) := by
  induction payloads with
  | nil => exact split_of_none (by decide +kernel)
  | cons payload payloads ih =>
    rw [List.forall_mem_cons] at h
    rw [frame_cons, split_append h.1, ih h.2, ← List.filter_append]
    rfl

/-- A payload that ends with all of a separator but the last byte is cut where that begins. -/
theorem split_append_dropLast {start : Bytes}
    (h : ¬ separator <:+: start ++ separator.dropLast) (rest : Bytes) :
    split (start ++ separator.dropLast ++ separator ++ rest) =
      [start].filter (!·.isEmpty) ++ split (separator.tail ++ rest) := by
  have hshared : separator.dropLast ++ separator = separator ++ separator.tail := by decide +kernel
  have hmoved : start ++ separator.dropLast ++ separator ++ rest =
      start ++ separator ++ (separator.tail ++ rest) := by
    rw [List.append_assoc start, hshared]
    simp only [List.append_assoc]
  rw [hmoved]
  exact split_of_some (Bytes.splitAtPattern?_append separator_ne_nil h _)

/-- **Such a payload does not come back** as the first part of a stream that it begins. -/
theorem split_ne_of_infix {payload : Bytes} (h : separator <:+: payload ++ [lf])
    (rest : Bytes) (parts : List Bytes) :
    split (payload ++ separator ++ rest) ≠ payload :: parts := by
  intro hsplit
  have hnot : ¬ separator <:+: payload :=
    not_infix_of_mem_split (hsplit ▸ List.mem_cons_self)
  rcases infix_concat_lf_iff.1 h with hinfix | ⟨start, rfl⟩
  · exact hnot hinfix
  rw [split_append_dropLast hnot] at hsplit
  cases start with
  | nil =>
    -- What is left of the separator that was written begins with another byte.
    obtain ⟨b, tail, htail, hb⟩ : ∃ b tail, separator.tail = b :: tail ∧ b ≠ lf :=
      ⟨0xF0, separator.tail.tail, by decide +kernel, by decide⟩
    obtain ⟨part, parts', hparts⟩ := split_cons hb (tail ++ rest)
    rw [htail, List.cons_append, hparts] at hsplit
    have hfirst : separator.dropLast = lf :: separator.dropLast.tail := by decide +kernel
    have hhead := (List.cons.inj hsplit).1
    rw [List.nil_append, hfirst] at hhead
    exact hb (List.cons.inj hhead).1
  | cons b start =>
    -- What comes back is shorter.
    have hhead : b :: start = b :: start ++ separator.dropLast := (List.cons.inj hsplit).1
    have hnil := List.append_right_eq_self.1 hhead.symm
    exact absurd hnil (by decide +kernel)

theorem not_infix_of_split_frame {payloads : List Bytes}
    (h : split (frame payloads) = payloads.filter (!·.isEmpty)) :
    ∀ payload ∈ payloads, ¬ separator <:+: payload ++ [lf] := by
  induction payloads with
  | nil => exact List.forall_mem_nil _
  | cons payload payloads ih =>
    rw [List.forall_mem_cons]
    rw [frame_cons] at h
    have hfirst : ¬ separator <:+: payload ++ [lf] := by
      intro hinfix
      have hne : payload ≠ [] := by
        rintro rfl
        have hlength := hinfix.length_le
        revert hlength
        decide +kernel
      rw [List.filter_cons_of_pos (by simpa using hne)] at h
      exact split_ne_of_infix hinfix _ _ h
    refine ⟨hfirst, ih ?_⟩
    rw [split_append hfirst] at h
    exact List.append_cancel_left (h.trans (List.filter_append [payload] payloads))

/-- **What a stream gives back is what was written to it**, empty payloads left out, exactly if no
payload holds the separator or ends with all of it but the final line feed. In other words, exactly
if no payload holds it once a line feed is put after it. -/
theorem split_frame_iff (payloads : List Bytes) :
    (split (frame payloads) = payloads.filter (!·.isEmpty) ↔
      ∀ payload ∈ payloads, ¬ separator <:+: payload ∧ ¬ separator.dropLast <:+ payload) ∧
    (split (frame payloads) = payloads.filter (!·.isEmpty) ↔
      ∀ payload ∈ payloads, ¬ separator <:+: payload ++ [lf]) := by
  have hiff : split (frame payloads) = payloads.filter (!·.isEmpty) ↔
      ∀ payload ∈ payloads, ¬ separator <:+: payload ++ [lf] :=
    ⟨not_infix_of_split_frame, split_frame⟩
  refine ⟨?_, hiff⟩
  rw [hiff]
  refine forall₂_congr fun payload _ => ?_
  rw [infix_concat_lf_iff, not_or]

/-- Thirteen of its fourteen bytes, alone: what comes back is what was left of the separator. -/
example : separator.length = 14 ∧
    split (frame [separator.dropLast]) = [separator.tail] := by decide +kernel

end Payload
end HttpReplay
