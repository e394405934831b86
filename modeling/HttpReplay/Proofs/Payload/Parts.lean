import HttpReplay.Proofs.Payload.Stream

/-!
What a stream is made of.

Reading takes nothing away from a stream but separators. Whatever the bytes are, the stream is the parts
that were read, with separators between any two of them and perhaps some at either end (`SetApart`), and no
part is empty or holds a separator itself.

Writing the parts to a stream again gives a stream from which the same parts are read, with one exception.
A part may end with all of a separator but the final line feed, and is then cut in two when a separator is
put after it. That part must be the last, for where another follows, a separator does, and reading would
have cut at the earlier one (`suffix_of_mem_split`); so the stream itself ends that way.
-/

set_option autoImplicit false

namespace HttpReplay.Payload

open Bytes (lf)

variable {stream part : Bytes}

/-- Separators in a row. -/
def separators (n : Nat) : Bytes := (List.replicate n separator).flatten

/-- **How a stream holds its parts**: one after the other, each with a number of separators after it, which
is not zero where another part follows, and perhaps some in front of the first. -/
def SetApart (parts : List Bytes) (stream : Bytes) : Prop :=
  ∃ (lead : Nat) (gaps : List Nat), gaps.length = parts.length ∧ (∀ gap ∈ gaps.dropLast, gap ≠ 0) ∧
    stream = separators lead ++ (parts.zipWith (fun part gap => part ++ separators gap) gaps).flatten

namespace SetApart

theorem single (part : Bytes) : SetApart [part] part :=
  ⟨0, [0], rfl, by simp, by simp [separators]⟩

/-- One separator more in front. -/
theorem separator {parts : List Bytes} (h : SetApart parts stream) :
    SetApart parts (Payload.separator ++ stream) := by
  obtain ⟨lead, gaps, hlength, hgaps, rfl⟩ := h
  exact ⟨lead + 1, gaps, hlength, hgaps, by simp [separators, List.replicate_succ]⟩

/-- One part more in front, with a separator after it: those in front of the other parts follow that
one. -/
theorem cons {parts : List Bytes} (part : Bytes) (h : SetApart parts stream) :
    SetApart (part :: parts) (part ++ Payload.separator ++ stream) := by
  obtain ⟨lead, gaps, hlength, hgaps, rfl⟩ := h
  refine ⟨0, (lead + 1) :: gaps, congrArg Nat.succ hlength, ?_, ?_⟩
  · intro gap hgap
    cases gaps with
    | nil => cases hgap
    | cons next gaps =>
      obtain rfl | hgap := List.mem_cons.1 hgap
      · exact Nat.succ_ne_zero lead
      · exact hgaps gap hgap
  · simp [separators, List.replicate_succ]

end SetApart

/-! ## Parts -/

/-- **A stream is its parts, set apart by separators.** -/
theorem setApart_split (stream : Bytes) : SetApart (split stream) stream := by
  induction stream using split.induct with
  | case1 stream hnone hempty =>
    obtain rfl := List.isEmpty_iff.1 hempty
    rw [split_of_none hnone]
    exact ⟨0, [], rfl, List.forall_mem_nil _, rfl⟩
  | case2 stream hnone hempty =>
    rw [split_of_none hnone, List.filter_cons_of_pos (by simpa using hempty)]
    exact .single stream
  | case3 stream before rest hsome _ hempty ih =>
    obtain rfl := List.isEmpty_iff.1 hempty
    rw [split_of_some hsome, Bytes.splitAtPattern?_eq_some hsome]
    exact ih.separator
  | case4 stream before rest hsome _ hempty ih =>
    rw [split_of_some hsome, Bytes.splitAtPattern?_eq_some hsome,
      List.filter_cons_of_pos (by simpa using hempty)]
    exact ih.cons before

/-- **Only the last part can end with all of a separator but the final line feed**, and the stream then ends
in the same way. -/
theorem suffix_of_mem_split (h : part ∈ split stream) (htorn : separator.dropLast <:+ part) :
    separator.dropLast <:+ stream := by
  obtain ⟨-, start, ⟨rfl, -⟩ | ⟨rest, -, hfirst⟩⟩ := exists_of_mem_split h
  · exact htorn.trans (List.suffix_append start part)
  · -- The line feed that follows would complete a separator earlier than the one that was cut at.
    have hearlier : separator <:+: part ++ [lf] := infix_concat_lf_iff.2 (.inr htorn)
    exact absurd (infix_append_dropLast_iff.2 hearlier) hfirst

/-! ## Framing the parts again -/

/-- The parts of a stream come back from the stream that they are written to, if the last of them is not
torn. -/
theorem split_frame_split (h : ∀ part ∈ split stream, ¬ separator.dropLast <:+ part) :
    split (frame (split stream)) = split stream := by
  have hwhole : ∀ part ∈ split stream, ¬ separator <:+: part ++ [lf] := by
    intro part hpart
    rw [infix_concat_lf_iff, not_or]
    exact ⟨not_infix_of_mem_split hpart, h part hpart⟩
  rw [split_frame hwhole, List.filter_eq_self]
  intro part hpart
  simpa using (exists_of_mem_split hpart).1

/-- **Reading a stream loses nothing but separators**: no part is empty or holds one, and the stream is the
parts with one separator or more between any two of them, and any number at either end. The parts that were
read are read again from the stream that they are written to, unless the first stream ends with all of a
separator but the final line feed. -/
theorem split_normal (stream : Bytes) :
    (∀ part ∈ split stream, part ≠ [] ∧ ¬ separator <:+: part) ∧
      SetApart (split stream) stream ∧
      (¬ separator.dropLast <:+ stream → split (frame (split stream)) = split stream) := by
  refine ⟨fun part hpart => ⟨(exists_of_mem_split hpart).1, not_infix_of_mem_split hpart⟩,
    setApart_split stream, fun hends => split_frame_split fun part hpart htorn => ?_⟩
  exact hends (suffix_of_mem_split hpart htorn)

/-- Separators in a row and at both ends, one without its first byte behind another, and one without its
last byte in front of another. -/
def crowdedStream : Bytes :=
  separators 2 ++ Bytes.ofText "1 a 5\n" ++ separator ++ separator.tail ++ Bytes.ofText "b" ++
    separator.dropLast ++ separator ++ Bytes.ofText "c" ++ separators 2

theorem split_normal_crowded :
    ¬ separator.dropLast <:+ crowdedStream ∧
      split crowdedStream = [Bytes.ofText "1 a 5\n", separator.tail ++ Bytes.ofText "b",
        separator.tail ++ Bytes.ofText "c"] ∧
      split (frame (split crowdedStream)) = split crowdedStream := by
  have hends : ¬ separator.dropLast <:+ crowdedStream := by decide +kernel
  exact ⟨hends, by decide +kernel, (split_normal crowdedStream).2.2 hends⟩

/-- The last part is torn, and the stream that it is written to has one part more. -/
example : split (frame (split (Bytes.ofText "a" ++ separator.dropLast))) =
    [Bytes.ofText "a", separator.tail] := by decide +kernel

end HttpReplay.Payload
