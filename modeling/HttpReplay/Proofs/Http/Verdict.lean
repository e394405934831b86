import HttpReplay.Proofs.Bytes.Pattern
import HttpReplay.Proofs.Http.Scan
import Mathlib.Data.Nat.Find

/-!
A verdict on a response is final.

A client looks at a response after every portion of it, so it matters that portions are an accident:
once the bytes so far are complete, or do not say where the response ends, more of them must not
change that. For the head this is the firmness of its grammar. For the body it depends on the
delimiter. A length that is reached stays reached; a body in chunks is walked through once more from
its beginning, and the walk takes the same steps as before, because every size line ends at the
leftmost line end and every chunk is skipped by its size (`chunksComplete_append`).

So along the growing beginnings of a byte string the verdict is `incomplete` up to some point and the
same from there on. The point is a matter of the bytes alone (`verdict_final`).
-/

set_option autoImplicit false

namespace HttpReplay.Http

variable {body rest line data : Bytes} {headRequest : Bool}

/-! ## Chunks -/

theorem crlf_ne_nil : Bytes.crlf ≠ [] := by decide

theorem blankLine_ne_nil : Bytes.crlf ++ Bytes.crlf ≠ [] := by decide

/-- A body in chunks begins with a size line; what that says is said of the bytes after it. -/
theorem chunksComplete_of_split (h : Bytes.splitAtPattern? Bytes.crlf body = some (line, rest)) :
    chunksComplete body = match chunkSize? line with
      | none => false
      | some size =>
        if size = 0 then trailerComplete rest
        else decide (size + 2 ≤ rest.length) && chunksComplete (rest.drop (size + 2)) := by
  rw [chunksComplete]
  split
  next hnone =>
    rw [h] at hnone
    cases hnone
  next line' rest' hsome =>
    rw [h] at hsome
    obtain ⟨rfl, rfl⟩ := Prod.mk.inj (Option.some.inj hsome)
    cases hsize : chunkSize? line with
    | none => rfl
    | some size =>
      cases size with
      | zero => rfl
      | succ size =>
        show (if size + 1 + 2 ≤ rest.length then chunksComplete (rest.drop (size + 1 + 2))
          else false) = if size + 1 = 0 then _ else _
        rw [if_neg (Nat.succ_ne_zero size)]
        by_cases hroom : size + 1 + 2 ≤ rest.length
        · rw [if_pos hroom, decide_eq_true hroom, Bool.true_and]
        · rw [if_neg hroom, decide_eq_false hroom, Bool.false_and]

theorem chunksComplete_of_none (h : Bytes.splitAtPattern? Bytes.crlf body = none) :
    chunksComplete body = false := by
  rw [chunksComplete]
  split
  next => rfl
  next hsome =>
    rw [h] at hsome
    cases hsome

theorem trailerComplete_append (h : trailerComplete rest = true) (more : Bytes) :
    trailerComplete (rest ++ more) = true := by
  rw [trailerComplete, Bool.or_eq_true, Bytes.isSome_strip?_iff,
    Bytes.hasPattern_iff blankLine_ne_nil] at h ⊢
  rcases h with hstart | hinside
  · exact .inl (hstart.trans (List.prefix_append rest more))
  · exact .inr (hinside.trans (List.prefix_append rest more).isInfix)

/-- **A body in chunks that is all there stays so** whatever comes after it. -/
theorem chunksComplete_append (h : chunksComplete body = true) (more : Bytes) :
    chunksComplete (body ++ more) = true := by
  -- The induction is on the bytes that are left to walk through.
  induction hlength : body.length using Nat.strongRecOn generalizing body with
  | ind length ih =>
    cases hsplit : Bytes.splitAtPattern? Bytes.crlf body with
    | none =>
      rw [chunksComplete_of_none hsplit] at h
      cases h
    | some parts =>
      obtain ⟨line, rest⟩ := parts
      have hsplit' : Bytes.splitAtPattern? Bytes.crlf (body ++ more) = some (line, rest ++ more) :=
        Bytes.splitAtPattern?_append_right crlf_ne_nil hsplit more
      have hshorter : rest.length < body.length := Bytes.length_of_splitAtPattern? crlf_ne_nil hsplit
      rw [chunksComplete_of_split hsplit] at h
      rw [chunksComplete_of_split hsplit']
      cases hsize : chunkSize? line with
      | none =>
        rw [hsize] at h
        cases h
      | some size =>
        rw [hsize] at h
        dsimp only at h ⊢
        by_cases hlast : size = 0
        · rw [if_pos hlast] at h ⊢
          exact trailerComplete_append h more
        · rw [if_neg hlast, Bool.and_eq_true, decide_eq_true_eq] at h ⊢
          obtain ⟨hroom, hnext⟩ := h
          rw [List.length_append, List.drop_append_of_le_length hroom]
          refine ⟨by omega, ih _ ?_ hnext rfl⟩
          rw [← hlength, List.length_drop]
          omega

/-! ## Verdicts -/

theorem framing_nil (headRequest : Bool) : framing headRequest [] = .incomplete := rfl

/-- What is said of a body once it is not incomplete stays true of a longer one. -/
theorem Delimiter.framing_append {d : Delimiter} (h : d.framing body ≠ .incomplete) (more : Bytes) :
    d.framing (body ++ more) = d.framing body := by
  cases d with
  | empty | «open» => rfl
  | chunks =>
    by_cases hcomplete : chunksComplete body = true
    · rw [Delimiter.framing, if_pos (chunksComplete_append hcomplete more), Delimiter.framing,
        if_pos hcomplete]
    · rw [Delimiter.framing, if_neg hcomplete] at h
      exact absurd rfl h
  | length size =>
    by_cases hreached : size ≤ body.length
    · have hreached' : size ≤ (body ++ more).length := by
        rw [List.length_append]
        omega
      rw [Delimiter.framing, if_pos hreached', Delimiter.framing, if_pos hreached]
    · rw [Delimiter.framing, if_neg hreached] at h
      exact absurd rfl h

/-- **Bytes added to a response change the verdict on it only if it was incomplete.** -/
theorem framing_append (h : framing headRequest data ≠ .incomplete) (more : Bytes) :
    framing headRequest (data ++ more) = framing headRequest data := by
  have hhead : responseHead data ≠ .cut := by
    intro hcut
    rw [framing, hcut] at h
    exact h rfl
  have hfirm := firm_responseHead data more hhead
  rw [framing, hfirm, framing]
  rw [framing] at h
  cases hresult : responseHead data with
  | cut => exact absurd hresult hhead
  | refused why => rfl
  | found head body =>
    rw [hresult] at h
    exact Delimiter.framing_append h more

theorem framing_of_prefix {start : Bytes} (h : framing headRequest start ≠ .incomplete)
    (hstart : start <+: data) : framing headRequest data = framing headRequest start := by
  obtain ⟨more, rfl⟩ := hstart
  exact framing_append h more

theorem framing_take_of_le {n m : Nat} (hnm : n ≤ m)
    (h : framing headRequest (data.take n) ≠ .incomplete) :
    framing headRequest (data.take m) = framing headRequest (data.take n) :=
  framing_of_prefix h (List.take_prefix_take_left hnm)

/-- Whether a message is recognised as whole at its last byte and not before. -/
def EndsExactly (headRequest : Bool) (message : Bytes) : Prop :=
  framing headRequest message = .complete ∧
    ∀ start, start <+: message → start ≠ message → framing headRequest start = .incomplete

/-- Ending exactly can be computed: it is enough to look at the beginnings of every length. -/
theorem endsExactly_iff {headRequest : Bool} {message : Bytes} :
    EndsExactly headRequest message ↔
      framing headRequest message = .complete ∧
        ∀ n < message.length, framing headRequest (message.take n) = .incomplete := by
  refine and_congr_right fun _ => ⟨fun h n hn => ?_, fun h start hstart hne => ?_⟩
  · refine h _ (List.take_prefix n message) fun hsame => ?_
    have hlength := congrArg List.length hsame
    rw [List.length_take] at hlength
    omega
  · have hless : start.length < message.length := by
      refine Nat.lt_of_le_of_ne hstart.length_le fun hlength => hne ?_
      exact hstart.eq_of_length hlength
    rw [List.prefix_iff_eq_take.1 hstart]
    exact h _ hless

instance (headRequest : Bool) (message : Bytes) :
    Decidable (EndsExactly headRequest message) :=
  decidable_of_iff _ endsExactly_iff.symm

/-- The verdicts along the beginnings of `data` change at one point at most, from `incomplete` to
what is said of the whole. -/
theorem exists_point_framing (headRequest : Bool) (data : Bytes) :
    ∃ point, (∀ n ≤ data.length, framing headRequest (data.take n) =
        if n < point then .incomplete else framing headRequest data) ∧
      (point ≤ data.length → framing headRequest data ≠ .incomplete) := by
  have hwhole : framing headRequest (data.take data.length) = framing headRequest data := by
    rw [List.take_length]
  by_cases h : framing headRequest data = .incomplete
  · refine ⟨data.length + 1, fun n hn => ?_, fun hpoint => by omega⟩
    rw [if_pos (by omega)]
    by_contra hdecided
    have hsame := framing_take_of_le hn hdecided
    rw [hwhole, h] at hsame
    exact hdecided hsame.symm
  · have hdecided : ∃ n, framing headRequest (data.take n) ≠ .incomplete :=
      ⟨data.length, by rwa [hwhole]⟩
    refine ⟨Nat.find hdecided, fun n hn => ?_, fun _ => h⟩
    by_cases hbefore : n < Nat.find hdecided
    · rw [if_pos hbefore]
      exact not_not.1 (Nat.find_min hdecided hbefore)
    · have hpoint : Nat.find hdecided ≤ n := by omega
      have hsame := framing_take_of_le hpoint (Nat.find_spec hdecided)
      have hend := framing_take_of_le (hpoint.trans hn) (Nat.find_spec hdecided)
      rw [if_neg hbefore, hsame, ← hend, hwhole]

/-- **A verdict is final, and the point where it falls is a matter of the bytes alone.** What is
said of a beginning of `data` that is not incomplete is said of every longer one; so there is a
point before which every beginning is incomplete and from which on all have one verdict, however
the bytes are cut into portions. -/
theorem verdict_final (headRequest : Bool) (data : Bytes) :
    (∀ n m, n ≤ m → m ≤ data.length → framing headRequest (data.take n) ≠ .incomplete →
        framing headRequest (data.take m) = framing headRequest (data.take n)) ∧
      ∃ point,
        (∀ n ≤ data.length, framing headRequest (data.take n) =
          if n < point then .incomplete else framing headRequest data) ∧
        (point ≤ data.length → framing headRequest data ≠ .incomplete) ∧
        ∀ portions : List Bytes, portions.flatten = data → ∀ k,
          framing headRequest (portions.take k).flatten =
            if (portions.take k).flatten.length < point then .incomplete
            else framing headRequest data := by
  obtain ⟨point, htake, hdecided⟩ := exists_point_framing headRequest data
  refine ⟨fun n m hnm _ h => framing_take_of_le hnm h, point, htake, hdecided, ?_⟩
  intro portions hportions k
  have hstart : (portions.take k).flatten <+: data := by
    rw [← hportions]
    exact (List.take_prefix k portions).flatten
  have hlaw := htake _ hstart.length_le
  rwa [← List.prefix_iff_eq_take.1 hstart] at hlaw

/-- A response in one chunk, and the beginning of the next one behind it. -/
def chunkedThenMore : Bytes :=
  Bytes.ofText "HTTP/1.1 200\r\nTransfer-Encoding: chunked\r\n\r\n1\r\n0\r\n0\r\n\r\nHTTP"

theorem verdict_final_chunkedThenMore :
    55 ≤ 57 ∧ 57 ≤ chunkedThenMore.length ∧
      framing false (chunkedThenMore.take 55) ≠ .incomplete ∧
      framing false (chunkedThenMore.take 57) = framing false (chunkedThenMore.take 55) ∧
      framing false (chunkedThenMore.take 54) = .incomplete := by
  have hdecided : framing false (chunkedThenMore.take 55) ≠ .incomplete := by decide +kernel
  have hbound : 57 ≤ chunkedThenMore.length := by decide +kernel
  exact ⟨by decide, hbound, hdecided,
    (verdict_final false chunkedThenMore).1 55 57 (by decide) hbound hdecided, by decide +kernel⟩

end HttpReplay.Http
