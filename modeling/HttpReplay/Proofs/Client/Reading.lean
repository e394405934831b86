import HttpReplay.Client.Reading
import HttpReplay.Proofs.Client.Trace

/-!
What the read loop can do, said once.

`Reads` lists the ways in which the loop goes on from the bytes read so far, one constructor for
each, and speaks of bytes only: the buffer, with whatever earlier responses left in it, and the
count of its bytes that matter are gone. `exists_reads_of_loop` says that every run of the loop is
one of these ways and that what it returns is the bytes it read, cut at the capacity. Everything
said of responses below rests on `Reads`, not on the loop.

The reason for which the loop ended tells how the bytes stand to the framing (`Reads.settled`): the
loop goes on exactly as long as they fit and are incomplete, so a loop that ended for want of bytes
holds nothing or an incomplete response.
-/

set_option autoImplicit false

namespace HttpReplay

/-- The reason for which an outcome ends the loop, unless it brings bytes in. -/
def ReadOutcome.end? : ReadOutcome → Option ReadEnd
  | received _ _ => none
  | ended => some .peerClosed
  | failed why => some (.failed why)
  | timedOut => some .timedOut

namespace Reading

open HttpReplay.Task (Event)

variable {capacity : Nat} {headRequest : Bool} {deadline : Instant}

/-- A loop that has read some bytes goes through the events to all the bytes it reads, and ends for
the reason. -/
inductive Reads (capacity : Nat) (headRequest : Bool) :
    Bytes → List Event → Bytes → ReadEnd → Prop
  | timedOut {before : Bytes} (time : Instant) :
      Reads capacity headRequest before [.now time, .read capacity .timedOut] before .timedOut
  | failed {before : Bytes} (time : Instant) (reason : String) :
      Reads capacity headRequest before [.now time, .read capacity (.failed reason)] before
        (.failed reason)
  | ended {before : Bytes} (time : Instant) :
      Reads capacity headRequest before [.now time, .read capacity .ended] before .peerClosed
  | full {before : Bytes} (time : Instant) (first : UInt8) (more : Bytes) :
      capacity ≤ (before ++ first :: more).length →
      Reads capacity headRequest before [.now time, .read capacity (.received first more)]
        (before ++ first :: more) .bufferFull
  | framed {before : Bytes} (time : Instant) (first : UInt8) (more : Bytes) :
      (before ++ first :: more).length < capacity →
      Http.framing headRequest (before ++ first :: more) = .complete →
      Reads capacity headRequest before [.now time, .read capacity (.received first more)]
        (before ++ first :: more) .framed
  | drained {before : Bytes} (time : Instant) (first : UInt8) (more : Bytes) :
      (before ++ first :: more).length < capacity →
      Http.framing headRequest (before ++ first :: more) = .unframed →
      Reads capacity headRequest before [.now time, .read capacity (.received first more)]
        (before ++ first :: more) .drained
  | again {before all : Bytes} {es : List Event} {reason : ReadEnd} (time : Instant)
      (first : UInt8) (more : Bytes) :
      (before ++ first :: more).length < capacity →
      Http.framing headRequest (before ++ first :: more) = .incomplete →
      Reads capacity headRequest (before ++ first :: more) es all reason →
      Reads capacity headRequest before
        (.now time :: .read capacity (.received first more) :: es) all reason

/-! ## The loop -/

/-- Writing over a buffer from the end of the bytes that count appends to them. -/
theorem take_overwrite {buffer data before : Bytes} {n : Nat} (hbefore : buffer.take n = before)
    (hn : before.length = n) :
    (overwrite buffer n data).take (n + data.length) = before ++ data := by
  have hlen : (before ++ data).length = n + data.length := by rw [List.length_append, hn]
  rw [overwrite, hbefore, ← hlen]
  exact List.take_left

/-- **Every run of the loop is one of the listed ways**, and it returns the bytes that were read, as
many of them as fit. -/
theorem exists_reads_of_loop {buffer before : Bytes} {n : Nat} {es : List Event} {r : Result}
    (hbefore : buffer.take n = before) (hn : before.length = n) (hfits : n < capacity)
    (h : (loop capacity deadline headRequest buffer n).Runs es r) :
    ∃ all, Reads capacity headRequest before es all r.reason ∧
      r.response = all.take capacity ∧ r.count = min all.length capacity := by
  -- The induction is on the room that is left in the buffer; each turn but the last takes some.
  induction hroom : capacity - n using Nat.strongRecOn generalizing buffer before n es with
  | ind room ih =>
    have hwhole : (⟨buffer, n, .timedOut⟩ : Result).response = before.take capacity := by
      rw [Result.response, hbefore, List.take_of_length_le (by omega)]
    have hcount : n = min before.length capacity := by omega
    rw [loop] at h
    cases h with | now time h =>
    cases h with | read outcome h =>
    cases outcome with
    | timedOut =>
      obtain ⟨rfl, rfl⟩ := Task.runs_done_iff.1 h
      exact ⟨before, .timedOut time, hwhole, hcount⟩
    | failed reason =>
      obtain ⟨rfl, rfl⟩ := Task.runs_done_iff.1 h
      exact ⟨before, .failed time reason, hwhole, hcount⟩
    | ended =>
      obtain ⟨rfl, rfl⟩ := Task.runs_done_iff.1 h
      exact ⟨before, .ended time, hwhole, hcount⟩
    | received first more =>
      simp only at h
      generalize hdata : (first :: more).take (capacity - n) = data at h
      have htake : (overwrite buffer n data).take (n + data.length) = before ++ data :=
        take_overwrite hbefore hn
      have hsize : data.length = min (capacity - n) (more.length + 1) := by
        rw [← hdata, List.length_take, List.length_cons]
      have hall : (before ++ first :: more).length = n + (more.length + 1) := by
        rw [List.length_append, List.length_cons, hn]
      split at h
      next hfull =>
        obtain ⟨rfl, rfl⟩ := Task.runs_done_iff.1 h
        refine ⟨before ++ first :: more, .full time first more (by omega), ?_, ?_⟩
        · rw [Result.response, htake, List.take_append, hn, hdata,
            List.take_of_length_le (by omega)]
        · simp only
          omega
      next hroomy =>
        -- What is read fits, so nothing of it was cut off.
        have hrest : data = first :: more := by
          rw [← hdata, List.take_of_length_le (by rw [List.length_cons]; omega)]
        rw [hrest] at h htake hroomy
        have hless : (before ++ first :: more).length < capacity := by
          rw [List.length_cons] at hroomy
          omega
        have hresponse : (before ++ first :: more).take capacity = before ++ first :: more :=
          List.take_of_length_le (by omega)
        have hcount' : n + (first :: more).length
            = min (before ++ first :: more).length capacity := by
          rw [List.length_cons]
          omega
        rw [htake] at h
        cases hframing : Http.framing headRequest (before ++ first :: more) with
        | complete =>
          simp only [hframing] at h
          obtain ⟨rfl, rfl⟩ := Task.runs_done_iff.1 h
          exact ⟨_, .framed time first more hless hframing, htake.trans hresponse.symm, hcount'⟩
        | unframed =>
          -- What fits is less than a whole buffer, so the read was a short one.
          have hshort : (first :: more).length < capacity := by omega
          simp only [hframing, if_pos hshort] at h
          obtain ⟨rfl, rfl⟩ := Task.runs_done_iff.1 h
          exact ⟨_, .drained time first more hless hframing, htake.trans hresponse.symm, hcount'⟩
        | incomplete =>
          simp only [hframing] at h
          obtain ⟨all, hreads, hresult⟩ := ih (capacity - (n + (first :: more).length))
            (by rw [List.length_cons]; omega) htake (by rw [hall, List.length_cons])
            (by rw [List.length_cons]; omega) h rfl
          exact ⟨all, .again time first more hless hframing hreads, hresult⟩

/-- The same for a whole response, whatever the buffer holds. -/
theorem exists_reads_of_readResponse {buffer : Bytes} {es : List Event} {r : Result}
    (hcapacity : 0 < capacity) (h : (readResponse capacity deadline headRequest buffer).Runs es r) :
    ∃ all, Reads capacity headRequest [] es all r.reason ∧
      r.response = all.take capacity ∧ r.count = min all.length capacity :=
  exists_reads_of_loop List.take_zero rfl hcapacity h

/-! ## What a finished loop holds -/

namespace Reads

variable {before all : Bytes} {es : List Event} {reason : ReadEnd}

/-- The loop only looks at the clock and reads. -/
theorem isReading (h : Reads capacity headRequest before es all reason) :
    ∀ e ∈ es, e.isReading = true := by
  induction h with
  | again time first more _ _ _ ih =>
    intro e he
    rcases List.mem_cons.1 he with rfl | he
    · rfl
    · rcases List.mem_cons.1 he with rfl | he
      · rfl
      · exact ih e he
  | _ => simp [Event.isReading]

/-- It loses nothing that it read, and makes nothing up. -/
theorem eq_append_received (h : Reads capacity headRequest before es all reason) :
    all = before ++ Task.received es := by
  induction h with
  | again time first more _ _ _ ih =>
    rw [ih]
    simp [Event.received]
  | _ => simp [Event.received]

/-- How the bytes that were read stand to the framing, by the reason for which the loop ended. -/
def Settled (capacity : Nat) (headRequest : Bool) (all : Bytes) : ReadEnd → Prop
  | .bufferFull => capacity ≤ all.length
  | .framed => all.length < capacity ∧ Http.framing headRequest all = .complete
  | .drained => all.length < capacity ∧ Http.framing headRequest all = .unframed
  | .peerClosed | .timedOut | .failed _ =>
    all.length < capacity ∧ (all = [] ∨ Http.framing headRequest all = .incomplete)

theorem settled (hbefore : before.length < capacity)
    (hopen : before = [] ∨ Http.framing headRequest before = .incomplete)
    (h : Reads capacity headRequest before es all reason) :
    Settled capacity headRequest all reason := by
  induction h with
  | timedOut | failed | ended => exact ⟨hbefore, hopen⟩
  | full time first more hfull => exact hfull
  | framed time first more hless hframing => exact ⟨hless, hframing⟩
  | drained time first more hless hframing => exact ⟨hless, hframing⟩
  | again time first more hless hframing _ ih => exact ih hless (.inr hframing)

/-- A read brings nothing in only where the loop ends for it. -/
theorem reason_of_mem (h : Reads capacity headRequest before es all reason) {most : Nat}
    {outcome : ReadOutcome} {why : ReadEnd} (hwhy : outcome.end? = some why)
    (hmem : Event.read most outcome ∈ es) : reason = why := by
  have hlast {time : Instant} {last : ReadOutcome} {end' : ReadEnd}
      (hmem : Event.read most outcome ∈ [.now time, .read capacity last])
      (hend : last.end? = some end') : end' = why := by
    simp only [List.mem_cons, reduceCtorEq, Event.read.injEq, List.not_mem_nil, or_false,
      false_or] at hmem
    rw [← hmem.2, hwhy] at hend
    exact (Option.some.inj hend).symm
  induction h with
  | timedOut | failed | ended => exact hlast hmem rfl
  | full | framed | drained =>
    simp only [List.mem_cons, reduceCtorEq, Event.read.injEq, List.not_mem_nil, or_false,
      false_or] at hmem
    rw [hmem.2] at hwhy
    cases hwhy
  | again time first more _ _ _ ih =>
    simp only [List.mem_cons, reduceCtorEq, Event.read.injEq, false_or] at hmem
    rcases hmem with ⟨-, rfl⟩ | hmem
    · cases hwhy
    · exact ih hmem

end Reads
end Reading
end HttpReplay
