import HttpReplay.Proofs.Pool.Counters

/-!
A pool with an idle floor never has fewer workers than it started with.

A worker of such a pool leaves if more than twice the floor wait. It looks at the counters to see
that, and looks at them again to leave, so by the time it leaves those that waited may all be busy,
and any number of workers may have seen the same idle ones. What keeps them from leaving the pool
short is not the moment at which they leave but the one at which they decide: a worker that looks is
neither idle nor has it decided before, and so the idle ones that it sees remain besides all those
who have decided, itself included. The invariant is therefore one about the workers that are left
when all of these are gone (`Reachable.kept`), and it is only ever put to the test by a decision.

The lower half of the word may show fewer idle workers than there are but never more
(`Counters.Tells.idle_le`), and too few of them keep nobody from staying. The argument is thus free
of any bound on the number of workers; one is needed only to read the result off the counters.
-/

set_option autoImplicit false

namespace HttpReplay

open Pool (Shared)

/-- The lower half of the word never shows more workers than wait. -/
theorem Counters.Tells.idle_le {c : Counters} {live idling : Nat} (h : c.Tells live idling) :
    c.idle ≤ idling := by
  unfold Tells at h
  rw [idle_eq]
  omega

/-- With fewer than `2 ^ 32` workers the upper half shows all of them. -/
theorem Counters.Tells.active_eq {c : Counters} {live idling : Nat} (h : c.Tells live idling)
    (hidling : idling ≤ live) (hlive : live < 2 ^ 32) : c.active = live := by
  rw [Counters.active_eq, h.word_eq hidling hlive]
  omega

/-! ## Making up one's mind -/

namespace Worker

/-- Why a worker is going to leave, if it is. -/
def Phase.motive? : Phase → Option Motive
  | .retiring why | .swapping why _ => some why
  | _ => none

/-- A worker that waits is not going to leave, and one that is has a slot. -/
theorem Phase.idle_add_surplus_le (phase : Phase) :
    phase.isIdle.toNat + (phase.motive? == some .surplus).toNat ≤ phase.holdsSlot.toNat := by
  cases phase with
  | retiring why | swapping why => simpa [isIdle, motive?, holdsSlot] using Bool.toNat_le _
  | _ => simp [isIdle, motive?, holdsSlot]

/-- What a step of a worker has to do with its leaving, in a pool with an idle floor whose workers
keep their clients. -/
inductive Resolves (s : Pool.Settings) : Counters → Phase → Phase → Prop
  /-- It keeps its slot, and if it is going to leave then for no new reason. -/
  | stays {c : Counters} {phase phase' : Phase} : phase'.holdsSlot = phase.holdsSlot →
      phase'.motive? = phase.motive? ∨ phase'.motive? = none → Resolves s c phase phase'
  /-- It finds too many others idle. -/
  | decides {c : Counters} : s.idleCeiling < c.idle →
      Resolves s c .checking (.retiring .surplus)
  /-- It leaves. -/
  | leaves {c : Counters} {phase phase' : Phase} {why : Motive} : phase.motive? = some why →
      phase'.holdsSlot = false → phase'.motive? = none → Resolves s c phase phase'
  /-- It has to stop. -/
  | stops {c : Counters} : Resolves s c .stopping .gone

variable {s : Pool.Settings} {target : Target} {k : Nat}

/-- A worker that must not leave is not going to. -/
theorem motive?_consider (s : Pool.Settings) (target : Target) (w : Worker) (why : Motive)
    (word : UInt64) :
    (w.consider s target why word).phase.motive? = some why ∨
      (w.consider s target why word).phase.motive? = none := by
  obtain ⟨-, h⟩ | h | h := consider_phase s target w why word <;> rw [h]
  · exact .inl rfl
  · exact .inr rfl
  · exact .inr rfl

/-- With an idle floor, a wait without work is no reason to leave. -/
theorem afterWait_phase_of_floor (hfloor : 0 < s.idleWorkers) (w : Worker) :
    (w.afterWait s .timedOut).phase = .checking := by
  have hnone : (s.isDynamic && s.idleWorkers == 0) = false := by
    rw [Bool.and_eq_false_iff]
    exact .inr (beq_false_of_ne (Nat.ne_of_gt hfloor))
  rw [afterWait, hnone]
  rfl

/-- A worker that keeps its client does not leave after a payload. -/
theorem afterPayload_phase_of_keeping (hrecycle : s.recycle = 0) (w : Worker) :
    (w.afterPayload s target).phase = .checking := by
  simp [afterPayload, hrecycle, goTo]

/-- **The only reason to leave is that too many others are idle.** -/
theorem Moves.resolves (hfloor : 0 < s.idleWorkers) (hrecycle : s.recycle = 0) {e : Event}
    {shared shared' : Shared} {w w' : Worker} (h : Moves s target k e shared w shared' w') :
    Resolves s shared.counters w.phase w'.phase := by
  cases h with
  | check hphase =>
    rw [hphase]
    simp only [goTo]
    split
    next hsurplus =>
      simp only [Bool.and_eq_true, decide_eq_true_eq] at hsurplus
      exact .decides hsurplus.2
    next => exact .stays rfl (.inr rfl)
  | @leave _ _ why hphase =>
    rw [hphase]
    obtain h | h := leave_phase w why <;> rw [h] <;> exact .leaves rfl rfl rfl
  | retire hphase =>
    rw [hphase]
    exact .stops
  | @consider _ _ why hphase | @reload _ _ why _ hphase =>
    rw [hphase]
    have hslot := Phase.counts_of_isBetween (isBetween_consider s target w why shared.counters.word)
    exact .stays hslot.1 (motive?_consider s target w why shared.counters.word)
  | finish hphase =>
    rw [hphase, afterPayload_phase_of_keeping hrecycle]
    exact .stays rfl (.inr rfl)
  | @wake _ _ wake hphase =>
    rw [hphase]
    cases wake with
    | payload | stopped => exact .stays rfl (.inr rfl)
    | timedOut =>
      rw [afterWait_phase_of_floor hfloor]
      exact .stays rfl (.inr rfl)
  | @reply _ _ payload _ reply _ _ roundTrip hphase =>
    rw [hphase]
    obtain ⟨header, -, -, h⟩ | h := replyPhase_cases s payload reply roundTrip <;>
      simp only [h] <;> exact .stays rfl (.inr rfl)
  | lineUp => exact .stays rfl (.inl rfl)
  | rest hphase | take hphase | expire hphase | stop hphase | serve hphase | skip hphase
  | deliver hphase | giveUp hphase | report hphase =>
    rw [hphase]
    exact .stays rfl (.inr rfl)

/-- A worker that is going to leave has found too many others idle. -/
theorem Resolves.motive {c : Counters} {phase phase' : Phase} (h : Resolves s c phase phase')
    (hmotive : ∀ why, phase.motive? = some why → why = .surplus) :
    ∀ why, phase'.motive? = some why → why = .surplus := by
  intro why hwhy
  cases h with
  | stays _ hkept =>
    obtain hsame | hnone := hkept
    · exact hmotive why (hsame ▸ hwhy)
    · rw [hnone] at hwhy
      cases hwhy
  | decides => exact (Option.some.inj hwhy).symm
  | leaves _ _ hnone =>
    rw [hnone] at hwhy
    cases hwhy
  | stops => cases hwhy

end Worker

/-! ## Those who stay -/

namespace Pool

variable {s : Settings} {target : Target}

/-- How many workers of a pool have found too many others idle and have not left yet. -/
def parting (p : Pool) : Nat := p.workers.countP fun w => w.phase.motive? == some .surplus

/-- Nobody who waits is going to leave. -/
theorem idling_add_parting_le_live (p : Pool) : p.idling + p.parting ≤ p.live := by
  unfold idling parting live
  induction p.workers with
  | nil => exact Nat.le_refl 0
  | cons w workers ih =>
    have hone := w.phase.idle_add_surplus_le
    have hcons (f : Worker → Bool) :
        (w :: workers).countP f = workers.countP f + (f w).toNat := by
      rw [List.countP_cons]
      cases f w <;> rfl
    simp only [hcons]
    omega

theorem parting_set {p : Pool} {k : Nat} {w : Worker} (shared : Shared) (w' : Worker)
    (h : p.workers[k]? = some w) :
    parting { p with shared, workers := p.workers.set k w' } +
        (w.phase.motive? == some .surplus).toNat =
      p.parting + (w'.phase.motive? == some .surplus).toNat :=
  countP_set_add (f := fun w : Worker => w.phase.motive? == some .surplus) h

/-- A worker that is started is not going to leave. -/
theorem parting_spawn (p : Pool) (target : Target) :
    (p.spawn s target).parting = p.parting := by
  rw [parting, spawn, List.countP_append]
  rfl

theorem Reachable.motive (hfloor : 0 < s.idleWorkers) (hrecycle : s.recycle = 0) {p : Pool}
    (h : Reachable s target p) :
    ∀ w ∈ p.workers, ∀ why, w.phase.motive? = some why → why = .surplus :=
  h.forall_worker (P := fun _ w => ∀ why, w.phase.motive? = some why → why = .surplus)
    (fun _ => nofun) (fun hmove => (hmove.resolves hfloor hrecycle).motive) (fun _ => id)

/-- A pool with an idle floor starts half as many workers again, and twice the floor is too many, if
three times the floor is a size. -/
theorem Settings.initialWorkers_of_floor (hdynamic : s.isDynamic = true)
    (hfloor : 0 < s.idleWorkers) (hsize : s.idleWorkers * 3 ≤ Numeral.maxSize) :
    s.initialWorkers = s.idleWorkers * 3 / 2 := by
  simp [initialWorkers, hdynamic, growth, idleAim_of_floor hsize, Nat.ne_of_gt hfloor]

theorem Settings.idleCeiling_of_floor (hsize : s.idleWorkers * 3 ≤ Numeral.maxSize) :
    s.idleCeiling = s.idleWorkers * 2 := by
  rw [idleCeiling, Nat.mod_eq_of_lt (by omega)]

/-- **In a dynamic pool that a program opens which checks its products, no product is cut.** So it
makes no difference to such a pool that products are told as wrapping. -/
theorem Settings.exact_of_opens (hdynamic : s.isDynamic = true) (hopens : s.opens .checked = true) :
    s.idleAim = s.idleWorkers * 3 / 2 ∧ s.idleCeiling = s.idleWorkers * 2 := by
  have hsize : s.idleWorkers * 3 ≤ Numeral.maxSize := by
    simpa [opens, hdynamic] using hopens
  exact ⟨idleAim_of_floor hsize, idleCeiling_of_floor hsize⟩

/-- A pool that is open has no workers of its first ones to start. -/
theorem due_of_isOpen {p : Pool} (h : p.isOpen = true) : p.due = 0 := by
  unfold isOpen at h
  unfold due
  cases hcoordinator : p.coordinator with
  | opening left => simp [hcoordinator] at h
  | _ => rfl

/-- **A worker's step leaves as many** as there were when all are gone who are going to leave, as
long as nothing makes it stop. `due` workers are to be started yet. -/
theorem kept_of_moves {p : Pool} (hp : Reachable s target p) (hfloor : 0 < s.idleWorkers)
    (hsize : s.idleWorkers * 3 ≤ Numeral.maxSize) (hrecycle : s.recycle = 0)
    (hstopped : p.shared.stopped = false) (hheld : p.shared.held = true) {e : Worker.Event}
    {k due : Nat} {w w' : Worker} {shared' : Shared} (hw : p.workers[k]? = some w)
    (hmove : Worker.Moves s target k e p.shared w shared' w')
    (hkept : s.idleWorkers * 3 / 2 + p.parting ≤ p.live + due) :
    s.idleWorkers * 3 / 2 + parting { p with shared := shared', workers := p.workers.set k w' } ≤
      live { p with shared := shared', workers := p.workers.set k w' } + due := by
  have hmem := List.mem_of_getElem? hw
  have hmotive := hp.motive hfloor hrecycle w hmem
  have hentitled := hp.entitled w hmem
  have hresolves := hmove.resolves hfloor hrecycle
  have hlive := live_set shared' w' hw
  have hidling := idling_set shared' w' hw
  have hparting := parting_set shared' w' hw
  have hapart := idling_add_parting_le_live
    { p with shared := shared', workers := p.workers.set k w' }
  generalize w.phase = phase at *
  generalize w'.phase = phase' at *
  cases hresolves with
  | stays hslot hmotive' =>
    -- It may have changed its mind, which leaves one more.
    have hless : (phase'.motive? == some .surplus).toNat ≤
        (phase.motive? == some .surplus).toNat := by
      obtain hsame | hnone := hmotive'
      · exact Nat.le_of_eq (by rw [hsame])
      · rw [hnone]
        exact Nat.zero_le _
    rw [hslot] at hlive
    omega
  | decides hceiling =>
    -- The idle ones that it sees remain besides all who have decided.
    have hseen := hp.tells.idle_le
    rw [Settings.idleCeiling_of_floor hsize] at hceiling
    change _ + 0 = p.idling + 0 at hidling
    omega
  | @leaves _ _ why hwhy hslot hnone =>
    -- One less is left, and one less is going to leave.
    obtain rfl := hmotive why hwhy
    rw [hslot, Bool.toNat_false] at hlive
    rw [hwhy, hnone] at hparting
    change _ + 1 = p.parting + 0 at hparting
    have hone := Bool.toNat_le phase.holdsSlot
    omega
  | stops =>
    obtain hover | hover := hentitled
    · rw [hstopped] at hover
      cases hover
    · rw [hheld] at hover
      cases hover

/-- **Even when all are gone who are going to leave, as many workers are left as the pool started
with.** While it is being opened those count that are to be started yet. -/
theorem Reachable.kept {p : Pool} (h : Reachable s target p) (hdynamic : s.isDynamic = true)
    (hfloor : 0 < s.idleWorkers) (hsize : s.idleWorkers * 3 ≤ Numeral.maxSize)
    (hrecycle : s.recycle = 0) (hstopped : p.shared.stopped = false)
    (hheld : p.shared.held = true) :
    s.idleWorkers * 3 / 2 + p.parting ≤ p.live + p.due := by
  revert hstopped hheld
  refine Reachable.induction (P := fun p => p.shared.stopped = false → p.shared.held = true →
    s.idleWorkers * 3 / 2 + p.parting ≤ p.live + p.due) ?_ ?_ h
  · intro _ _
    rw [← Settings.initialWorkers_of_floor hdynamic hfloor hsize]
    exact Nat.le_of_eq (Nat.add_comm _ _)
  intro e p q hp ih hmove hstopped hheld
  have hstopped' := hmove.later.not_stopped hstopped
  have hheld' := hmove.later.held hheld
  have hkept := ih hstopped' hheld'
  cases hmove with
  | worker hw hw' =>
    exact kept_of_moves hp hfloor hsize hrecycle hstopped' hheld' hw hw' hkept
  | start hcoordinator | hire hcoordinator =>
    have hlive := live_spawn (s := s) p target
    have hparting := parting_spawn (s := s) p target
    -- The worker that is started was due before, or is one more.
    rw [due, hcoordinator] at hkept
    change _ + (p.spawn s target).parting ≤ (p.spawn s target).live + _
    rw [hlive, hparting]
    dsimp only [due] at hkept ⊢
    omega
  | opened hcoordinator =>
    rw [due, hcoordinator] at hkept
    exact Nat.le_trans hkept (Nat.le_add_right _ _)
  | resize hcoordinator | decide hcoordinator | hired hcoordinator
  | stopCoordinator hcoordinator =>
    rw [due, hcoordinator] at hkept
    exact hkept
  | accept | pass | measure | compare | ask | read | stop | drop => exact hkept

/-- What is left of a pool with an idle floor when some of its workers have found too many others
idle. -/
structure Floored (s : Settings) (p : Pool) : Prop where
  /-- The pool started with half as many workers again as its floor has. -/
  started : s.initialWorkers = s.idleWorkers * 3 / 2
  /-- It has as many besides those who are going to leave … -/
  kept : s.idleWorkers * 3 / 2 + p.parting ≤ p.shared.counters.active
  /-- … and so has as many at any rate. -/
  staffed : s.idleWorkers * 3 / 2 ≤ p.shared.counters.active
  /-- Whoever is going to leave may do so by what the counters show: nobody who has found too many
  others idle stays because it is the last. -/
  free : 0 < p.parting → Counters.mayRetire p.shared.counters.word = true

/-- **A pool with an idle floor never shrinks below its starting size**, and would not if all of its
workers left that have found too many others idle: in whatever order workers wait, take payloads,
look at the counters and leave, and the coordinator starts others, as long as the workers keep their
clients, fewer than `2 ^ 32` of them hold a slot, and neither was everything told to stop nor is
whoever writes and reads gone. -/
theorem floor_kept {p : Pool} (h : Reachable s target p) (hdynamic : s.isDynamic = true)
    (hfloor : 0 < s.idleWorkers) (hsize : s.idleWorkers * 3 ≤ Numeral.maxSize)
    (hrecycle : s.recycle = 0) (hopen : p.isOpen = true) (hstopped : p.shared.stopped = false)
    (hheld : p.shared.held = true) (hfew : p.live < 2 ^ 32) : Floored s p := by
  have hkept := h.kept hdynamic hfloor hsize hrecycle hstopped hheld
  rw [due_of_isOpen hopen, Nat.add_zero, ← h.tells.active_eq p.idling_le_live hfew] at hkept
  have hinitial := Settings.initialWorkers_of_floor hdynamic hfloor hsize
  refine ⟨hinitial, hkept, by omega, fun hparting => ?_⟩
  have htwo : 1 < Counters.activeOf p.shared.counters.word := by
    change 1 < p.shared.counters.active
    omega
  exact decide_eq_true htwo

/-! ## Two workers that see the same idle ones

A pool with a floor of one, which starts one worker and gets four more for a backlog. Three of them
wait; the other two see this at once and both leave, one after the other.
-/

/-- A pool with an idle floor of one. -/
def modest : Settings where
  idleWorkers := 1

/-- Four requests are written and taken by the only worker and three others, of which two have
looked at the counters at the end. -/
def modestEvents : List Event :=
  List.replicate 2 .coordinator ++
    List.replicate 4 (.write [0x31, 0x20]) ++
    [.writer 3, .writer 3, .writer 3] ++
    List.replicate 7 .coordinator ++
    (List.range 5).map (fun k => .worker k .proceed) ++
    [.worker 0 .lineUp, .worker 0 .take, .worker 1 .lineUp, .worker 1 .take] ++
    (List.replicate 4 [.worker 0 .proceed, .worker 1 .proceed]).flatten

theorem floor_kept_modest :
    ∃ p, Reachable modest (.onHost .http "site" none) p ∧ modest.isDynamic = true ∧
      0 < modest.idleWorkers ∧ modest.idleWorkers * 3 ≤ Numeral.maxSize ∧ modest.recycle = 0 ∧
      p.isOpen = true ∧ p.shared.stopped = false ∧ p.shared.held = true ∧ p.live = 5 ∧
      p.parting = 2 ∧ Floored modest p := by
  have hrun : ((initial modest).run modest (.onHost .http "site" none) modestEvents).any
      (fun p => p.isOpen && !p.shared.stopped && p.shared.held && p.live == 5 && p.parting == 2) =
        true := by decide +kernel
  obtain ⟨p, hp, hstate⟩ := (Option.any_eq_true _ _).1 hrun
  simp only [Bool.and_eq_true, Bool.not_eq_true', beq_iff_eq] at hstate
  obtain ⟨⟨⟨⟨hopen, hstopped⟩, hheld⟩, hlive⟩, hparting⟩ := hstate
  exact ⟨p, ⟨_, hp⟩, rfl, by decide, by decide, rfl, hopen, hstopped, hheld, hlive, hparting,
    floor_kept ⟨_, hp⟩ rfl (by decide) (by decide) rfl hopen hstopped hheld (by omega)⟩

end Pool
end HttpReplay
