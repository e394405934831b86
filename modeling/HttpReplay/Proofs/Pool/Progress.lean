import HttpReplay.Proofs.Pool.Delivery
import HttpReplay.Proofs.Pool.Size

/-!
A pool with something to do goes on by itself, unless it has no room for a response.

A worker that holds a slot has a step of its own in every phase but two. One that waits may have to
let others go first, and one that hands over a response may find no room. In the first case it
matters who those others are: whoever stands in line waits (`Reachable.lined`), and so the first of
them takes what is in the queue. The second case is what remains (`Reachable.advances`).

The steps that are meant need nothing but the pool: no wait is ended by time, and nothing has to be
told to stop.
-/

set_option autoImplicit false

namespace HttpReplay

open Pool (Shared)

namespace Worker

/-- What a worker can do next without time passing and without having to stop. Replacing the
counters is tried again only if they have changed. -/
inductive Advances (shared : Shared) (w : Worker) : Event → Prop
  | proceed : Advances shared w .proceed
  | lineUp : Advances shared w .lineUp
  | take : Advances shared w .take
  | replied (client : Client) (reply : Reply) (started stopped : Moment) (roundTrip : Duration) :
      Advances shared w (.replied client reply started stopped roundTrip)
  | deliver : Advances shared w .deliver
  | swap : Advances shared w .swap
  | reload {why : Motive} {seen : UInt64} : w.phase = .swapping why seen →
      shared.counters.word ≠ seen → Advances shared w .reload

variable {s : Pool.Settings} {target : Target} {k : Nat} {shared : Shared} {w : Worker}

/-- **A worker that neither waits nor hands over a response has a step of its own** as long as it
holds a slot. -/
theorem exists_advances (hslot : w.phase.holdsSlot = true) (hbusy : w.phase ≠ .waiting)
    (hhands : w.phase.record? = none) :
    ∃ e, Advances shared w e ∧ (w.step s target k shared e).isSome = true := by
  cases hphase : w.phase with
  | resting | woken | holding | served | retiring | checking | stopping =>
    refine ⟨.proceed, .proceed, ?_⟩
    simp only [step, proceed, hphase, Option.isSome_some]
  | replaying payload =>
    -- Whatever the answer, it is one.
    refine ⟨.replied w.client (.answered []) ⟨0, 0⟩ ⟨0, 0⟩ 0, .replied _ _ _ _ _, ?_⟩
    simp only [step, hphase, Option.isSome_some]
  | swapping why seen =>
    by_cases hseen : shared.counters.word = seen
    · refine ⟨.swap, .swap, ?_⟩
      simp only [step, hphase, if_pos hseen, Option.isSome_some]
    · refine ⟨.reload, .reload hphase hseen, ?_⟩
      simp only [step, hphase, Option.isSome_some]
  | waiting => exact absurd hphase hbusy
  | handingOver response =>
    rw [hphase] at hhands
    cases hhands
  | reporting | gone =>
    rw [hphase] at hslot
    cases hslot

/-! ## The line -/

/-- What a worker's step does to the line: the worker joins it, leaves it, or had no place in it
and gets none. -/
theorem Moves.line {e : Event} {shared shared' : Shared} {w w' : Worker}
    (h : Moves s target k e shared w shared' w') :
    (w.phase = .waiting ∧ k ∉ shared.line ∧ shared'.line = shared.line ++ [k] ∧ w' = w) ∨
      shared'.line = shared.line.erase k ∨
      (w.phase ≠ .waiting ∧ shared'.line = shared.line) := by
  cases h with
  | lineUp hphase hline => exact .inl ⟨hphase, hline, rfl, rfl⟩
  | @take _ _ line payload queue hphase hline hqueue =>
    right; left
    rw [hline, List.erase_cons_head]
    rfl
  | expire | stop => exact .inr (.inl rfl)
  | leave hphase => exact .inr (.inr ⟨by rw [hphase]; nofun, rfl⟩)
  | rest hphase | wake hphase | serve hphase | skip hphase | reply _ _ _ _ _ hphase
  | deliver hphase | giveUp hphase | finish hphase | consider hphase | reload hphase
  | check hphase | report hphase | retire hphase =>
    exact .inr (.inr ⟨by rw [hphase]; nofun, rfl⟩)

/-- Workers neither stop a pool nor let go of it. -/
theorem Moves.goesOn {e : Event} {shared shared' : Shared} {w w' : Worker}
    (h : Moves s target k e shared w shared' w') :
    (shared.held = true → shared'.held = true) ∧
      (shared.stopped = false → shared'.stopped = false) := by
  cases h <;> exact ⟨id, id⟩

end Worker

namespace Pool

variable {s : Settings} {target : Target} {p : Pool}

/-- Nobody stands in line twice, and whoever does waits. -/
structure Lined (line : List Nat) (workers : List Worker) : Prop where
  nodup : line.Nodup
  waits : ∀ k ∈ line, ∃ w, workers[k]? = some w ∧ w.phase = .waiting

/-- A step of worker `k` is nothing to the others in line. -/
theorem Lined.set {line line' : List Nat} {workers : List Worker} {k : Nat} (w' : Worker)
    (h : Lined line workers) (hnodup : line'.Nodup) (hothers : ∀ i ∈ line', i ∈ line ∧ i ≠ k) :
    Lined line' (workers.set k w') := by
  refine ⟨hnodup, fun i hi => ?_⟩
  obtain ⟨hbefore, hne⟩ := hothers i hi
  rw [List.getElem?_set_ne (Ne.symm hne)]
  exact h.waits i hbefore

theorem Lined.moves {k : Nat} {e : Worker.Event} {shared shared' : Shared}
    {workers : List Worker} {w w' : Worker} (h : Lined shared.line workers)
    (hw : workers[k]? = some w) (hmove : Worker.Moves s target k e shared w shared' w') :
    Lined shared'.line (workers.set k w') := by
  rcases hmove.line with ⟨hphase, hnew, hline, rfl⟩ | hline | ⟨hphase, hline⟩
  · -- The worker that joins the line is as it was.
    obtain ⟨hk, hself⟩ := List.getElem?_eq_some_iff.1 hw
    rw [hline, ← hself, List.set_getElem_self hk]
    refine ⟨List.nodup_append.2 ⟨h.nodup, List.pairwise_singleton _ k, ?_⟩, fun i hi => ?_⟩
    · rintro i hi i' hi' rfl
      rw [List.mem_singleton] at hi'
      exact hnew (hi' ▸ hi)
    · rcases List.mem_append.1 hi with hi | hi
      · exact h.waits i hi
      · rw [List.mem_singleton.1 hi]
        exact ⟨_, hw, hphase⟩
  · rw [hline]
    refine h.set w' (h.nodup.erase k) fun i hi => ?_
    rw [h.nodup.mem_erase_iff] at hi
    exact ⟨hi.2, hi.1⟩
  · rw [hline]
    refine h.set w' h.nodup fun i hi => ⟨hi, ?_⟩
    rintro rfl
    obtain ⟨w₀, hw₀, hwaits⟩ := h.waits i hi
    rw [hw] at hw₀
    cases hw₀
    exact hphase hwaits

/-- A worker that is started is not in line. -/
theorem Lined.concat {line : List Nat} {workers : List Worker} (h : Lined line workers)
    (w : Worker) : Lined line (workers ++ [w]) := by
  refine ⟨h.nodup, fun k hk => ?_⟩
  obtain ⟨w', hw', hphase⟩ := h.waits k hk
  rw [List.getElem?_append_left (List.getElem?_eq_some_iff.1 hw').1]
  exact ⟨w', hw', hphase⟩

theorem Reachable.lined (h : Reachable s target p) : Lined p.shared.line p.workers := by
  refine Reachable.induction (P := fun p => Lined p.shared.line p.workers) ⟨List.nodup_nil, nofun⟩
    ?_ h
  intro e p q _ ih hmove
  cases hmove with
  | worker hw hmove => exact ih.moves hw hmove
  | start | hire =>
    dsimp only
    rw [shared_spawn, workers_spawn]
    exact ih.concat _
  | measure =>
    dsimp only
    split <;> exact ih
  | accept | pass | compare | ask | opened | resize | decide | hired | stopCoordinator | read | stop
  | drop => exact ih

/-! ## Going on -/

/-- The events by which worker `k` of a pool goes on by itself. -/
def Advances (p : Pool) (k : Nat) (e : Worker.Event) : Prop :=
  ∃ w, p.workers[k]? = some w ∧ w.Advances p.shared e

theorem exists_step_of_worker {k : Nat} {w : Worker} {e : Worker.Event}
    (hw : p.workers[k]? = some w) (hadvance : w.Advances p.shared e)
    (hstep : (w.step s target k p.shared e).isSome = true) :
    ∃ k e q, p.Advances k e ∧ p.step s target (.worker k e) = some q := by
  obtain ⟨⟨shared', w'⟩, hstep⟩ := Option.isSome_iff_exists.1 hstep
  refine ⟨k, e, { p with shared := shared', workers := p.workers.set k w' }, ⟨w, hw, hadvance⟩, ?_⟩
  simp only [step, advanceWorker, hw, hstep, Option.map_some]

/-- What is in the queue is taken by whoever is first in line, and if nobody is, by whoever gets
there. -/
theorem Reachable.exists_take (h : Reachable s target p) (hqueue : p.shared.queue ≠ []) {w : Worker}
    (hw : w ∈ p.workers) (hwaits : w.phase = .waiting) :
    ∃ k e q, p.Advances k e ∧ p.step s target (.worker k e) = some q := by
  obtain ⟨payload, queue, hqueue⟩ := List.exists_cons_of_ne_nil hqueue
  rcases hline : p.shared.line with _ | ⟨first, line⟩
  · obtain ⟨k, hk⟩ := List.mem_iff_getElem?.1 hw
    refine exists_step_of_worker hk .lineUp ?_
    rw [Worker.step, hline, if_pos ⟨hwaits, List.not_mem_nil⟩, Option.isSome_some]
  · obtain ⟨w', hw', hwaits'⟩ := h.lined.waits first (hline ▸ List.mem_cons_self)
    refine exists_step_of_worker hw' .take ?_
    simp only [Worker.step, hwaits', hline, hqueue, if_true, Option.isSome_some]

/-- Only where responses are tracked are there any to hand over. -/
theorem Reachable.tracks (h : Reachable s target p) :
    ∀ r ∈ p.handingOver, s.trackResponses = true := by
  refine Reachable.deals (P := fun p => ∀ r ∈ p.handingOver, s.trackResponses = true) nofun ?_ h
  intro p q _ ih hdeal r hr
  cases hdeal with
  | keep _ _ hout | accept _ _ _ hout | take _ _ _ hout | skip _ _ _ hout | read _ _ _ hout
  | drop _ _ _ hout => exact ih r (hout.mem_iff.1 hr)
  | deliver _ _ hout | giveUp _ _ _ hout =>
    exact ih r (hout.mem_iff.2 (List.mem_cons_of_mem _ hr))
  | @reply w payload reply roundTrip _ _ _ _ hout =>
    rcases List.mem_append.1 (hout.mem_iff.1 hr) with hnew | hold
    · by_cases htracked : s.trackResponses = true
      · exact htracked
      · rw [Worker.answer?, if_neg htracked] at hnew
        cases hnew
    · exact ih r hold

/-- A pool that goes on has somebody who works. -/
theorem Reachable.one_le_live (h : Reachable s target p)
    (hfloor : s.idleWorkers * 3 ≤ Numeral.maxSize) (hopen : p.isOpen = true)
    (hstopped : p.shared.stopped = false) (hheld : p.shared.held = true) : 1 ≤ p.live := by
  by_cases hdynamic : s.isDynamic = true
  · have hstaffed := h.staffed hdynamic hfloor hstopped hheld
    rw [due_of_isOpen hopen] at hstaffed
    exact hstaffed
  · have hfixed : s.isDynamic = false := Bool.eq_false_iff.2 hdynamic
    rw [h.live_of_fixed hfixed hopen hstopped hheld]
    exact isDynamic_eq_false_iff.1 hfixed

/-- **A pool that has a payload in its queue or a response to hand over goes on by itself**, unless
a response can be read back from it. -/
theorem Reachable.advances (h : Reachable s target p)
    (hfloor : s.idleWorkers * 3 ≤ Numeral.maxSize) (hopen : p.isOpen = true)
    (hstopped : p.shared.stopped = false) (hheld : p.shared.held = true)
    (hwork : p.shared.queue ≠ [] ∨ p.handingOver ≠ []) :
    (∃ k e q, p.Advances k e ∧ p.step s target (.worker k e) = some q) ∨
      (s.trackResponses = true ∧ p.shared.responses ≠ []) := by
  by_cases hhands : p.handingOver = []
  · have hqueue := hwork.resolve_right (absurd hhands)
    obtain ⟨w, hw, hslot⟩ := List.countP_pos_iff.1 (h.one_le_live hfloor hopen hstopped hheld)
    left
    by_cases hwaits : w.phase = .waiting
    · exact h.exists_take hqueue hw hwaits
    · have hnone : w.phase.record? = none := List.filterMap_eq_nil_iff.1 hhands w hw
      obtain ⟨k, hk⟩ := List.mem_iff_getElem?.1 hw
      obtain ⟨e, hadvance, hstep⟩ := Worker.exists_advances hslot hwaits hnone
      exact exists_step_of_worker hk hadvance hstep
  · obtain ⟨r, hr⟩ := List.exists_mem_of_ne_nil _ hhands
    obtain ⟨w, hw, hrecord⟩ := List.mem_filterMap.1 hr
    have hphase : w.phase = .handingOver r := by
      cases hphase : w.phase <;> rw [hphase] at hrecord <;> cases hrecord
      rfl
    by_cases hroom : p.shared.responses.length < s.responseRoom
    · left
      obtain ⟨k, hk⟩ := List.mem_iff_getElem?.1 hw
      refine exists_step_of_worker hk .deliver ?_
      simp only [Worker.step, hphase, if_pos (And.intro hheld hroom), Option.isSome_some]
    · -- Room for one response there always is.
      right
      refine ⟨h.tracks r hr, fun hnone => hroom ?_⟩
      rw [hnone, List.length_nil, Settings.responseRoom]
      omega

/-! ## From outside

What those who write to a pool and read from it have to know of it.
-/

theorem Reachable.step {q : Pool} {e : Event} (h : Reachable s target p)
    (hstep : p.step s target e = some q) : Reachable s target q := by
  obtain ⟨events, hrun⟩ := h
  refine ⟨events ++ [e], ?_⟩
  rw [run_append, hrun, Option.bind_some, run, hstep]
  rfl

/-- The events that end nothing. -/
def Event.goesOn : Event → Bool
  | .stopCoordinator | .stop | .drop => false
  | .write _ | .writer _ | .worker _ _ | .coordinator | .read => true

/-- **A pool goes on until it is told not to.** -/
theorem Moves.goesOn {q : Pool} {e : Event} (h : Moves s target e p q) (he : e.goesOn = true)
    (hopen : p.isOpen = true) (hheld : p.shared.held = true) (hstopped : p.shared.stopped = false) :
    q.isOpen = true ∧ q.shared.held = true ∧ q.shared.stopped = false := by
  cases h with
  | start hcoordinator | opened hcoordinator =>
    -- It was open before.
    rw [isOpen, hcoordinator] at hopen
    cases hopen
  | resize | decide | hired => exact ⟨rfl, hheld, hstopped⟩
  | hire =>
    dsimp only
    rw [shared_spawn]
    exact ⟨rfl, hheld, hstopped⟩
  | worker _ hmove => exact ⟨hopen, hmove.goesOn.1 hheld, hmove.goesOn.2 hstopped⟩
  | measure =>
    dsimp only
    split <;> exact ⟨hopen, hheld, hstopped⟩
  | accept | pass | compare | ask | read => exact ⟨hopen, hheld, hstopped⟩
  | stopCoordinator | stop | drop => cases he

/-- The events that are nothing to the writers: those that have to do with other parts of the pool,
and writes of what is no request. -/
def Event.sparesWriters : Event → Bool
  | .write payload => !Payload.isRequest payload
  | .writer _ => false
  | _ => true

theorem Moves.writers {q : Pool} {e : Event} (h : Moves s target e p q)
    (he : e.sparesWriters = true) : q.writers = p.writers := by
  cases h with
  | accept _ _ hrequest =>
    rw [Event.sparesWriters, hrequest] at he
    cases he
  | measure | compare | ask => cases he
  | start | hire =>
    dsimp only
    rw [writers_spawn]
  | _ => rfl

/-- **A writer goes on at any time**, and is done with that or not. -/
theorem exists_step_writer {n : Nat} (hn : n < p.writers.length) :
    ∃ q, p.step s target (.writer n) = some q := by
  rw [step, advanceWriter, List.getElem?_eq_getElem hn]
  cases p.writers[n] <;> exact ⟨_, rfl⟩

theorem Moves.length_writers {q : Pool} {n : Nat} (h : Moves s target (.writer n) p q) :
    q.writers.length = p.writers.length ∨ q.writers.length + 1 = p.writers.length := by
  cases h with
  | measure hwriter | compare hwriter =>
    have hn := (List.getElem?_eq_some_iff.1 hwriter).1
    dsimp only
    split
    · exact .inl (List.length_set ..)
    · exact .inr (List.length_eraseIdx_add_one hn)
  | ask hwriter =>
    have hn := (List.getElem?_eq_some_iff.1 hwriter).1
    exact .inr (List.length_eraseIdx_add_one hn)

/-- **What is no request is passed over at once**, however full the queue is, and leaves nothing
behind. -/
theorem write_eq_self {payload : Bytes} (hopen : p.isOpen = true) (hheld : p.shared.held = true)
    (hno : Payload.isRequest payload = false) : p.write s payload = some p := by
  rw [write, hopen, hheld, hno]
  rfl

end Pool
end HttpReplay
