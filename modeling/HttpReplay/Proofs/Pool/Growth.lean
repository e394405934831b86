import HttpReplay.Proofs.Pool.Size
import Mathlib.Algebra.GroupWithZero.Nat

/-!
What becomes of a writer's request for workers.

A writer that finds the queue longer than the number of workers asks for that many. There is room
for one request only, and one that waits absorbs all others; without an idle floor the coordinator
starts as many workers as the request that it takes says. Put together: what it takes next after a
writer has asked is what was waiting when the writer asked, or else what the writer asked for
(`taken_of_run`), and it starts so many workers, no more and no fewer.

Writers never ask for none. Workers do: one that has used its client often enough lets the
coordinator know by a request for zero workers, which says nothing where there is no idle floor and
still takes up the room. So a writer's request is good for at least one worker if and only if no
such request waits when it is made (`growth_request`), as it never does where workers keep their
clients.
-/

set_option autoImplicit false

namespace HttpReplay

open Pool (Shared Entry)

/-- The request for workers that the coordinator took, in an entry that says so. -/
def Pool.Entry.resized? : Entry → Option Nat
  | .resized requested => some requested
  | _ => none

namespace Worker

variable {s : Pool.Settings} {target : Target} {k : Nat} {e : Event} {shared shared' : Shared}
  {w w' : Worker}

/-! ## Workers that ask for none -/

/-- A worker changes the waiting request only in that it asks for no workers when it has left. -/
theorem Moves.resize (h : Moves s target k e shared w shared' w') :
    shared'.resize = shared.resize ∨
      (w.phase = .reporting ∧ shared'.resize = some (shared.resize.getD 0)) := by
  cases h with
  | report hphase => exact .inr ⟨hphase, rfl⟩
  | _ => exact .inl rfl

/-- A worker takes no requests. -/
theorem Moves.resized (h : Moves s target k e shared w shared' w') :
    shared'.log.filterMap Entry.resized? = shared.log.filterMap Entry.resized? := by
  cases h with
  | reply client reply started stopped roundTrip _ =>
    rw [List.filterMap_append]
    cases hanalytics : s.analytics <;>
      simp [replyEntries, hanalytics, Entry.resized?, List.filterMap_cons]
  | _ => rfl

/-- Whether a worker is not going to let the coordinator know when it leaves. -/
def Phase.Quiet (phase : Phase) : Prop :=
  phase ≠ .reporting ∧ ∀ why, phase.motive? = some why → why = .unused

/-- A worker without a mind to leave is not. -/
theorem Phase.Quiet.of_motive? {phase : Phase} (hphase : phase ≠ .reporting)
    (hmotive : phase.motive? = none) : phase.Quiet :=
  ⟨hphase, fun why hwhy => by rw [hmotive] at hwhy; cases hwhy⟩

/-- Without an idle floor, workers that keep their clients leave for want of work only, and do so
without a word. -/
theorem Moves.quiet (hfloor : s.idleWorkers = 0) (hrecycle : s.recycle = 0)
    (h : Moves s target k e shared w shared' w') (hw : w.phase.Quiet) : w'.phase.Quiet := by
  have hunused {why : Motive} (hphase : w.phase.motive? = some why) : why = .unused :=
    hw.2 why hphase
  have hconsidered {why : Motive} {word : UInt64} (hphase : w.phase.motive? = some why) :
      (w.consider s target why word).phase.Quiet := by
    obtain ⟨-, h⟩ | h | h := consider_phase s target w why word
    · rw [h]
      refine ⟨by simp, fun other hother => ?_⟩
      rw [← Option.some.inj hother]
      exact hunused hphase
    · rw [h]
      exact .of_motive? (by simp) rfl
    · rw [h]
      exact .of_motive? (by simp) rfl
  cases h with
  | lineUp => exact hw
  | @wake _ _ wake hphase =>
    obtain ⟨data, -, h⟩ | ⟨-, h⟩ | ⟨-, h | h⟩ := afterWait_phase s w wake
    · rw [h]
      exact .of_motive? (by simp) rfl
    · rw [h]
      exact .of_motive? (by simp) rfl
    · rw [h]
      exact ⟨by simp, fun why hwhy => (Option.some.inj hwhy).symm⟩
    · rw [h]
      exact .of_motive? (by simp) rfl
  | @reply _ _ payload _ reply _ _ roundTrip hphase =>
    dsimp only
    obtain ⟨header, -, -, h⟩ | h := replyPhase_cases s payload reply roundTrip <;> rw [h] <;>
      exact .of_motive? (by simp) rfl
  | finish hphase =>
    rw [afterPayload_phase_of_keeping hrecycle]
    exact .of_motive? (by simp) rfl
  | consider hphase | reload hphase => exact hconsidered (by rw [hphase]; rfl)
  | @leave _ _ why hphase =>
    obtain rfl : why = .unused := hunused (by rw [hphase]; rfl)
    have hgone : (w.leave .unused).phase = .gone := rfl
    rw [hgone]
    exact .of_motive? (by simp) rfl
  | check hphase =>
    have hnone : (s.isDynamic && 0 < s.idleWorkers && s.idleCeiling < shared.counters.idle) =
        false := by
      rw [hfloor]
      simp
    rw [hnone]
    exact .of_motive? (by simp [goTo]) rfl
  | report hphase => exact absurd hphase hw.1
  | rest | take | expire | stop | serve | skip | deliver | giveUp | retire =>
    exact .of_motive? (by simp [goTo]) rfl

end Worker

namespace Pool

variable {s : Settings} {target : Target} {p q r : Pool} {e : Event}

theorem Reachable.quiet (h : Reachable s target p) (hfloor : s.idleWorkers = 0)
    (hrecycle : s.recycle = 0) : ∀ w ∈ p.workers, w.phase.Quiet :=
  h.forall_worker (P := fun _ w => w.phase.Quiet) (fun _ => .of_motive? (by simp [Worker.fresh]) rfl)
    (fun hmove hw => hmove.quiet hfloor hrecycle hw) (fun _ hw => hw)

/-- A writer never asks for no workers. -/
theorem Reachable.pos_of_asking (h : Reachable s target p) :
    ∀ d, .asking d ∈ p.writers → 1 ≤ d := by
  -- Only a writer that finds the queue longer than some number of workers comes to ask.
  refine Reachable.induction (P := fun p => ∀ d, .asking d ∈ p.writers → 1 ≤ d) ?_ ?_ h
  · intro d hd
    cases hd
  intro e p q _ ih hmove d hd
  cases hmove with
  | accept =>
    rcases List.mem_append.1 hd with hd | hd
    · exact ih d hd
    · cases List.mem_singleton.1 hd
  | measure =>
    dsimp only at hd
    split at hd
    · rcases List.mem_or_eq_of_mem_set hd with hd | hd
      · exact ih d hd
      · cases hd
    · exact ih d (List.mem_of_mem_eraseIdx hd)
  | compare =>
    dsimp only at hd
    split at hd
    next hlong =>
      rcases List.mem_or_eq_of_mem_set hd with hd | hd
      · exact ih d hd
      · cases hd
        omega
    next => exact ih d (List.mem_of_mem_eraseIdx hd)
  | ask => exact ih d (List.mem_of_mem_eraseIdx hd)
  | start | hire =>
    dsimp only at hd
    rw [writers_spawn] at hd
    exact ih d hd
  | pass | worker | opened | resize | decide | hired | stopCoordinator | read | stop | drop =>
    exact ih d hd

/-- Without an idle floor, and with workers that keep their clients, nobody asks for no workers. -/
theorem Reachable.resize_ne_zero (h : Reachable s target p) (hfloor : s.idleWorkers = 0)
    (hrecycle : s.recycle = 0) : p.shared.resize ≠ some 0 := by
  -- Writers ask for some workers, and a worker that would ask for none never comes to do so.
  refine Reachable.induction (P := fun p => p.shared.resize ≠ some 0) (by simp [initial]) ?_ h
  intro e p q hp ih hmove
  cases hmove with
  | @ask _ i d hwriter =>
    have hd := hp.pos_of_asking d (List.mem_of_getElem? hwriter)
    show some (p.shared.resize.getD d) ≠ some 0
    cases hresize : p.shared.resize with
    | none =>
      rw [Option.getD_none, Ne, Option.some.injEq]
      omega
    | some n =>
      rw [hresize] at ih
      exact ih
  | @worker _ k _ w w' shared' hw hmove =>
    obtain hkept | ⟨hreporting, -⟩ := hmove.resize
    · exact hkept ▸ ih
    · exact absurd hreporting (hp.quiet hfloor hrecycle w (List.mem_of_getElem? hw)).1
  | measure =>
    dsimp only
    split <;> exact ih
  | resize => simp [Shared.noting]
  | start | hire =>
    dsimp only
    rw [shared_spawn]
    exact ih
  | accept | pass | compare | opened | decide | hired | stopCoordinator | read | stop | drop =>
    exact ih

/-! ## What the coordinator takes -/

/-- The requests for workers that the coordinator has taken, the latest first. -/
def resizes (p : Pool) : List Nat := p.shared.log.filterMap Entry.resized?

/-- How many workers a coordinator is still going to start for what it has taken, where there is no
idle floor. -/
def Coordinator.promised : Coordinator → Nat
  | .opening left | .deciding left | .hiring left => left
  | .waiting | .off => 0

/-- The workers that have been started or are going to be. -/
def enrolled (p : Pool) : Nat := p.workers.length + p.coordinator.promised

/-- The steps of a pool without an idle floor by what they mean to requests for workers. -/
inductive Requests : Pool → Pool → Prop
  /-- A request that waits goes on waiting. -/
  | waits {p q : Pool} : (∀ n, p.shared.resize = some n → q.shared.resize = some n) →
      q.resizes = p.resizes → q.enrolled = p.enrolled → Requests p q
  /-- It is taken, and so many workers are going to be started. -/
  | taken {p q : Pool} {n : Nat} : p.shared.resize = some n → q.shared.resize = none →
      q.resizes = n :: p.resizes → q.enrolled = p.enrolled + n → Requests p q

/-- A step that leaves requests and the coordinator alone. -/
theorem Requests.of_same (hresize : q.shared.resize = p.shared.resize)
    (hresizes : q.resizes = p.resizes) (hworkers : q.workers.length = p.workers.length)
    (hcoordinator : q.coordinator = p.coordinator) : Requests p q :=
  .waits (fun n hn => hresize.trans hn) hresizes (by rw [enrolled, enrolled, hworkers, hcoordinator])

theorem Moves.requests (hfloor : s.idleWorkers = 0) (h : Moves s target e p q) :
    Requests p q := by
  cases h with
  | accept | pass | compare | read | stop | drop => exact .of_same rfl rfl rfl rfl
  | measure =>
    refine .of_same ?_ ?_ rfl rfl
    · dsimp only
      split <;> rfl
    · rw [resizes]
      dsimp only
      split <;> rfl
  | ask =>
    refine .waits (fun n hn => ?_) rfl rfl
    show some (p.shared.resize.getD _) = some n
    rw [hn]
    rfl
  | @worker _ k _ w w' shared' hw hmove =>
    have hlength : (p.workers.set k w').length = p.workers.length := List.length_set
    refine .waits (fun n hn => ?_) hmove.resized (by rw [enrolled, enrolled, hlength])
    obtain hkept | ⟨-, hasked⟩ := hmove.resize
    · exact hkept.trans hn
    · rw [hn] at hasked
      exact hasked
  | start hcoordinator | hire hcoordinator =>
    refine .waits (fun n hn => ?_) ?_ ?_
    · dsimp only
      rw [shared_spawn]
      exact hn
    · rw [resizes]
      dsimp only
      rw [shared_spawn]
      rfl
    · rw [enrolled, enrolled, hcoordinator]
      dsimp only [Coordinator.promised]
      rw [workers_spawn, List.length_append, List.length_singleton]
      omega
  | opened hcoordinator =>
    refine .waits (fun n hn => hn) rfl ?_
    rw [enrolled, enrolled, hcoordinator]
    dsimp only
    split <;> rfl
  | resize hcoordinator hresize =>
    refine .taken hresize rfl rfl ?_
    rw [enrolled, enrolled, hcoordinator]
    rfl
  | decide hcoordinator =>
    refine .waits (fun n hn => hn) rfl ?_
    rw [enrolled, enrolled, hcoordinator, Settings.growth, if_pos hfloor]
    rfl
  | hired hcoordinator | stopCoordinator hcoordinator =>
    refine .waits (fun n hn => hn) rfl ?_
    rw [enrolled, enrolled, hcoordinator]
    rfl

/-- **What is taken next is what waits**, and so many workers are started as the requests taken say.
-/
theorem taken_of_run (hfloor : s.idleWorkers = 0) {es : List Event}
    (hrun : q.run s target es = some r) :
    ∃ taken, r.resizes = taken ++ q.resizes ∧ r.enrolled = q.enrolled + taken.sum ∧
      ∀ n, q.shared.resize = some n →
        (taken = [] ∧ r.shared.resize = some n) ∨ taken.getLast? = some n := by
  -- The induction is on the run from its end: its last step adds to what was taken before.
  induction es using List.reverseRecOn generalizing r with
  | nil =>
    obtain rfl := Option.some.inj hrun
    exact ⟨[], rfl, rfl, fun n hn => .inl ⟨rfl, hn⟩⟩
  | append_singleton es e ih =>
    rw [run_append] at hrun
    obtain ⟨t, ht, hlast⟩ := Option.bind_eq_some_iff.1 hrun
    obtain ⟨r', hr', hdone⟩ := Option.bind_eq_some_iff.1 hlast
    obtain rfl := Option.some.inj hdone
    obtain ⟨taken, hresizes, henrolled, hnext⟩ := ih ht
    cases (moves_of_step hr').requests hfloor with
    | waits hwaits hsame hcount =>
      refine ⟨taken, hsame.trans hresizes, hcount.trans henrolled, fun n hn => ?_⟩
      exact (hnext n hn).imp_left fun ⟨hnone, hpending⟩ => ⟨hnone, hwaits n hpending⟩
    | @taken m hpending _ hmore hcount =>
      refine ⟨m :: taken, ?_, ?_, fun n hn => .inr ?_⟩
      · rw [hmore, hresizes, List.cons_append]
      · rw [hcount, henrolled, List.sum_cons]
        omega
      · obtain ⟨rfl, hsame⟩ | hlast := hnext n hn
        · rw [hpending] at hsame
          exact hsame
        · rw [List.getLast?_cons, hlast]
          rfl

/-- **What a writer's request for workers comes to**, in a pool without an idle floor. The request
that the coordinator takes next after a writer has asked is for at least one worker if and only if
no request for none was waiting when the writer asked; where workers keep their clients none ever
is. And the coordinator starts exactly so many workers, besides those that it was already going to
start. -/
theorem growth_request (hfloor : s.idleWorkers = 0) (h : Reachable s target p) {i d : Nat}
    (hasking : p.writers[i]? = some (.asking d)) (hask : p.step s target (.writer i) = some q)
    {es : List Event} (hrun : q.run s target es = some r) {n : Nat}
    (hnext : r.resizes = n :: q.resizes) :
    n = p.shared.resize.getD d ∧ (1 ≤ n ↔ p.shared.resize ≠ some 0) ∧ (s.recycle = 0 → 1 ≤ n) ∧
      ∀ fs t, r.run s target fs = some t → t.resizes = r.resizes → t.coordinator = .waiting →
        t.workers.length = q.workers.length + q.coordinator.promised + n := by
  have hd : 1 ≤ d := h.pos_of_asking d (List.mem_of_getElem? hasking)
  have hpending : q.shared.resize = some (p.shared.resize.getD d) := by
    rw [step, advanceWriter, hasking] at hask
    obtain rfl := Option.some.inj hask
    rfl
  obtain ⟨taken, hresizes, henrolled, hfirst⟩ := taken_of_run hfloor hrun
  obtain rfl : taken = [n] := List.append_cancel_right (hresizes.symm.trans hnext)
  have hn : n = p.shared.resize.getD d := by
    obtain ⟨hnone, -⟩ | hlast := hfirst _ hpending
    · cases hnone
    · exact Option.some.inj hlast
  have hpos : 1 ≤ n ↔ p.shared.resize ≠ some 0 := by
    rw [hn]
    cases p.shared.resize with
    | none => simpa using hd
    | some m =>
      rw [Option.getD_some, Ne, Option.some.injEq]
      omega
  refine ⟨hn, hpos, fun hrecycle => hpos.2 (h.resize_ne_zero hfloor hrecycle), ?_⟩
  intro fs t hlater hsame hwaiting
  obtain ⟨others, hothers, hcount, -⟩ := taken_of_run hfloor hlater
  obtain rfl : others = [] := by
    rw [hsame] at hothers
    exact List.self_eq_append_left.1 hothers
  rw [henrolled, enrolled, enrolled, hwaiting] at hcount
  simpa [Coordinator.promised] using hcount

/-! ## A backlog of ten

A pool of ten workers. In the first run its workers keep their clients and a writer finds a queue of
eleven. In the second a worker has left after its only payload when a writer finds a queue of ten,
and lets the coordinator know before the writer asks.
-/

/-- A pool whose workers leave after one payload. -/
def restless : Settings where
  recycle := 1

/-- The pool is opened and eleven requests are written, the last of whose writers is about to ask.
-/
def backlogEvents : List Event :=
  [List.replicate 11 .coordinator, List.replicate 11 (.write [0x31, 0x20]),
    List.replicate 2 (.writer 10)].flatten

theorem growth_request_backlog :
    ∃ p q r t, Reachable {} (.onHost .http "site" none) p ∧
      p.writers[10]? = some (.asking 11) ∧
      p.step {} (.onHost .http "site" none) (.writer 10) = some q ∧
      q.run {} (.onHost .http "site" none) [.coordinator] = some r ∧
      r.resizes = 11 :: q.resizes ∧ 1 ≤ 11 ∧
      r.run {} (.onHost .http "site" none) (List.replicate 13 .coordinator) = some t ∧
      t.resizes = r.resizes ∧ t.coordinator = .waiting ∧
      t.workers.length = q.workers.length + q.coordinator.promised + 11 := by
  have hrun : ((initial {}).run {} (.onHost .http "site" none) backlogEvents).any
      (fun p => p.writers[10]? == some (.asking 11) &&
        (p.step {} (.onHost .http "site" none) (.writer 10)).any fun q =>
          (q.run {} (.onHost .http "site" none) [.coordinator]).any fun r =>
            r.resizes == 11 :: q.resizes &&
              (r.run {} (.onHost .http "site" none) (List.replicate 13 .coordinator)).any fun t =>
                t.resizes == r.resizes && t.coordinator == .waiting) = true := by decide +kernel
  obtain ⟨p, hp, hstate⟩ := (Option.any_eq_true _ _).1 hrun
  rw [Bool.and_eq_true, beq_iff_eq] at hstate
  obtain ⟨hasking, hstate⟩ := hstate
  obtain ⟨q, hq, hstate⟩ := (Option.any_eq_true _ _).1 hstate
  obtain ⟨r, hr, hstate⟩ := (Option.any_eq_true _ _).1 hstate
  rw [Bool.and_eq_true, beq_iff_eq] at hstate
  obtain ⟨hnext, hstate⟩ := hstate
  obtain ⟨t, ht, hstate⟩ := (Option.any_eq_true _ _).1 hstate
  rw [Bool.and_eq_true, beq_iff_eq, beq_iff_eq] at hstate
  obtain ⟨hsame, hwaiting⟩ := hstate
  obtain ⟨-, -, hkeeping, hstarted⟩ :=
    growth_request (s := {}) rfl ⟨_, hp⟩ hasking hq hr hnext
  exact ⟨p, q, r, t, ⟨_, hp⟩, hasking, hq, hr, hnext, hkeeping rfl, ht, hsame, hwaiting,
    hstarted _ t ht hsame hwaiting⟩

/-- The pool is opened, and its first worker takes a payload and leaves. Ten more are written, the
last of whose writers is about to ask when the worker lets the coordinator know. -/
def absorbedEvents : List Event :=
  [List.replicate 11 .coordinator,
    [.write [0x31, 0x20], .worker 0 .proceed, .worker 0 .lineUp, .worker 0 .take],
    List.replicate 4 (.worker 0 .proceed), [.worker 0 .swap],
    List.replicate 10 (.write [0x31, 0x20]), List.replicate 2 (.writer 10),
    [.worker 0 .proceed]].flatten

/-- **A request for ten workers is lost** where the coordinator has not yet taken that of a worker
that left. -/
theorem growth_request_lost :
    ¬ ∀ (s : Settings) (target : Target) (p q r : Pool) (i d n : Nat) (es : List Event),
      s.isDynamic = true → s.idleWorkers = 0 → Reachable s target p →
      p.writers[i]? = some (.asking d) → p.step s target (.writer i) = some q →
      q.run s target es = some r → r.resizes = n :: q.resizes → 1 ≤ n := by
  intro hclaim
  have hrun : ((initial restless).run restless (.onHost .http "site" none) absorbedEvents).any
      (fun p => p.writers[10]? == some (.asking 10) &&
        (p.step restless (.onHost .http "site" none) (.writer 10)).any fun q =>
          (q.run restless (.onHost .http "site" none) [.coordinator]).any fun r =>
            r.resizes == 0 :: q.resizes) = true := by decide +kernel
  obtain ⟨p, hp, hstate⟩ := (Option.any_eq_true _ _).1 hrun
  rw [Bool.and_eq_true, beq_iff_eq] at hstate
  obtain ⟨hasking, hstate⟩ := hstate
  obtain ⟨q, hq, hstate⟩ := (Option.any_eq_true _ _).1 hstate
  obtain ⟨r, hr, hresizes⟩ := (Option.any_eq_true _ _).1 hstate
  have hzero := hclaim restless _ p q r 10 10 0 _ rfl rfl ⟨_, hp⟩ hasking hq hr
    (eq_of_beq hresizes)
  omega

end Pool
end HttpReplay
