import HttpReplay.Proofs.Pool.Floor

/-!
A pool whose number of workers is given keeps that number.

Two things have to be shown. No worker is started once the pool is open: there is no coordinator
then, so whatever writers ask for is asked in vain (`Reachable.hired`). And no worker leaves: each of
the three reasons to leave is looked at by dynamic pools only, so that the one way out is to be told
to stop (`Reachable.stays`).
-/

set_option autoImplicit false

namespace HttpReplay

open Pool (Shared)

namespace Worker

variable {s : Pool.Settings} {target : Target} {k : Nat}

/-- In a pool of fixed size a wait without work is no reason to leave. -/
theorem afterWait_phase_of_fixed (hfixed : s.isDynamic = false) (w : Worker) :
    (w.afterWait s .timedOut).phase = .checking := by
  rw [afterWait, hfixed, Bool.false_and]
  rfl

theorem afterPayload_phase_of_fixed (hfixed : s.isDynamic = false) (w : Worker) :
    (w.afterPayload s target).phase = .checking := by
  rw [afterPayload, hfixed]
  dsimp only
  split <;> rfl

/-- A worker that has no mind to leave, and has given back its slot only if it had to stop. -/
structure Stays (shared : Shared) (phase : Phase) : Prop where
  motive? : phase.motive? = none
  entitled : Entitled shared phase
  holdsSlot : phase.holdsSlot = false → shared.stopped = true ∨ shared.held = false

/-- Nothing but having to stop takes a slot away from a worker without a mind to leave. -/
theorem Stays.of_holdsSlot {shared : Shared} {phase : Phase} (hmotive : phase.motive? = none)
    (hentitled : Entitled shared phase) (hslot : phase.holdsSlot = true) : Stays shared phase := by
  refine ⟨hmotive, hentitled, fun hnone => ?_⟩
  rw [hslot] at hnone
  cases hnone

theorem Stays.of_later {shared shared' : Shared} {phase : Phase} (hlater : shared.Later shared')
    (h : Stays shared phase) : Stays shared' phase := by
  refine ⟨h.motive?, h.entitled.of_later hlater, fun hnone => ?_⟩
  exact (h.holdsSlot hnone).imp hlater.stopped hlater.not_held

theorem Moves.stays (hfixed : s.isDynamic = false) {e : Event} {shared shared' : Shared}
    {w w' : Worker} (h : Moves s target k e shared w shared' w') (hw : Stays shared w.phase) :
    Stays shared' w'.phase := by
  have hentitled := h.entitled hw.entitled
  have hmotive := hw.motive?
  cases h with
  | lineUp => exact ⟨hmotive, hentitled, hw.holdsSlot⟩
  | consider hphase | reload hphase | leave hphase =>
    -- It would have had a mind to leave before.
    rw [hphase] at hmotive
    cases hmotive
  | retire hphase =>
    have hover := hw.entitled
    rw [hphase] at hover
    exact ⟨rfl, hentitled, fun _ => hover⟩
  | report hphase => exact ⟨rfl, hentitled, fun _ => hw.holdsSlot (by rw [hphase]; rfl)⟩
  | @wake _ _ wake hphase =>
    cases wake with
    | payload | stopped => exact .of_holdsSlot rfl hentitled rfl
    | timedOut =>
      rw [afterWait_phase_of_fixed hfixed] at hentitled ⊢
      exact .of_holdsSlot rfl hentitled rfl
  | finish hphase =>
    rw [afterPayload_phase_of_fixed hfixed] at hentitled ⊢
    exact .of_holdsSlot rfl hentitled rfl
  | check hphase =>
    rw [hfixed] at hentitled ⊢
    exact .of_holdsSlot rfl hentitled rfl
  | @reply _ _ payload _ reply _ _ roundTrip hphase =>
    dsimp only at hentitled ⊢
    obtain ⟨header, -, -, h⟩ | h := replyPhase_cases s payload reply roundTrip <;>
      rw [h] at hentitled ⊢ <;> exact .of_holdsSlot rfl hentitled rfl
  | rest | take | expire | stop | serve | skip | deliver | giveUp =>
    exact .of_holdsSlot rfl hentitled rfl

end Worker

namespace Pool

variable {s : Settings} {target : Target} {p : Pool}

/-! What starting a worker does to the parts of a pool. -/

section Spawn

variable (p : Pool) (target : Target)

theorem shared_spawn : (p.spawn s target).shared =
    { p.shared with counters := p.shared.counters.register } := by
  rw [spawn]

theorem workers_spawn : (p.spawn s target).workers = p.workers ++ [Worker.fresh s target] := by
  rw [spawn]

theorem writers_spawn : (p.spawn s target).writers = p.writers := by
  rw [spawn]

end Spawn

theorem isDynamic_eq_false_iff : s.isDynamic = false ↔ 1 ≤ s.workers := by
  rw [Settings.isDynamic, beq_eq_false_iff_ne]
  omega

theorem Reachable.stays (h : Reachable s target p) (hfixed : s.isDynamic = false) :
    ∀ w ∈ p.workers, Worker.Stays p.shared w.phase :=
  h.forall_worker (P := fun shared w => Worker.Stays shared w.phase)
    (fun _ => .of_holdsSlot rfl trivial rfl) (fun hmove hw => hmove.stays hfixed hw)
    Worker.Stays.of_later

/-- The workers that there have been are those that the counters have counted, … -/
theorem Reachable.spawned (h : Reachable s target p) :
    p.shared.counters.spawned = p.workers.length := by
  refine Reachable.induction (P := fun p => p.shared.counters.spawned = p.workers.length) rfl ?_ h
  intro e p q _ ih hmove
  cases hmove.staffing with
  | @worker _ k _ w w' shared' hw hw' =>
    have hkept : shared'.counters.spawned = p.shared.counters.spawned := by
      have hrecounts := hw'.recounts
      generalize shared'.counters = c' at hrecounts
      cases hrecounts <;> rfl
    rw [List.length_set, hkept]
    exact ih
  | spawn hworkers hshared =>
    rw [hworkers, hshared, List.length_append]
    exact congrArg (· + 1) ih
  | other _ hworkers hcounters _ =>
    rw [hworkers, hcounters]
    exact ih

/-- … and in a pool of fixed size they are those that it was opened with: nobody is there to start
others. -/
theorem Reachable.hired (h : Reachable s target p) (hfixed : s.isDynamic = false) :
    p.workers.length + p.due = s.workers ∧
      (p.isOpen = true → p.coordinator = .off) := by
  refine Reachable.induction (P := fun p => p.workers.length + p.due = s.workers ∧
    (p.isOpen = true → p.coordinator = .off)) ?_ ?_ h
  · have hinitial : s.initialWorkers = s.workers := by
      rw [Settings.initialWorkers, hfixed]
      rfl
    exact ⟨(Nat.zero_add _).trans hinitial, fun hopen => by cases hopen⟩
  rintro e p q - ⟨hcount, hoff⟩ hmove
  cases hmove with
  | start hcoordinator =>
    rw [due, hcoordinator] at hcount
    refine ⟨?_, fun hopen => by cases hopen⟩
    dsimp only [due, spawn] at hcount ⊢
    rw [List.length_append, List.length_singleton]
    omega
  | opened hcoordinator =>
    rw [due, hcoordinator] at hcount
    dsimp only at hcount ⊢
    rw [hfixed]
    exact ⟨hcount, fun _ => rfl⟩
  | resize hcoordinator | decide hcoordinator | hire hcoordinator | hired hcoordinator
  | stopCoordinator hcoordinator =>
    -- There would have to be a coordinator.
    have hopen : p.isOpen = true := by rw [isOpen, hcoordinator]
    have hnone := hoff hopen
    rw [hcoordinator] at hnone
    cases hnone
  | worker hw hmove =>
    dsimp only
    rw [List.length_set]
    exact ⟨hcount, hoff⟩
  | accept | pass | measure | compare | ask | read | stop | drop => exact ⟨hcount, hoff⟩

/-- A pool of fixed size that is open has started the workers that it was given and no others. -/
theorem Reachable.spawned_of_fixed (h : Reachable s target p) (hfixed : 1 ≤ s.workers)
    (hopen : p.isOpen = true) : p.shared.counters.spawned = s.workers := by
  obtain ⟨hhired, -⟩ := h.hired (isDynamic_eq_false_iff.2 hfixed)
  rw [due_of_isOpen hopen, Nat.add_zero] at hhired
  exact h.spawned.trans hhired

/-- **A pool of fixed size that goes on has all its workers.** -/
theorem Reachable.live_of_fixed (h : Reachable s target p) (hfixed : s.isDynamic = false)
    (hopen : p.isOpen = true) (hstopped : p.shared.stopped = false)
    (hheld : p.shared.held = true) : p.live = s.workers := by
  obtain ⟨hcount, -⟩ := h.hired hfixed
  rw [due_of_isOpen hopen, Nat.add_zero] at hcount
  rw [← hcount, live, List.countP_eq_length]
  intro w hw
  rw [← Bool.not_eq_false]
  intro hnone
  rcases (h.stays hfixed w hw).holdsSlot hnone with hover | hover
  · rw [hstopped] at hover
    cases hover
  · rw [hheld] at hover
    cases hover

/-- What the upper half of the word shows, however many workers there are: what the lower half
cannot hold is carried over, and what the upper half cannot hold is lost. -/
theorem Reachable.active_eq (h : Reachable s target p) :
    p.shared.counters.active = (p.live + p.idling / 2 ^ 32) % 2 ^ 32 := by
  have htells := h.tells
  unfold Counters.Tells at htells
  rw [Counters.active_eq, htells]
  omega

/-! ## Opening

Whoever opens a pool can start the first workers before anything else happens. So the pool right
after it was opened is one that can come about, however many workers that are.
-/

/-- Starting workers changes nothing that is shared but the counters, … -/
theorem shared_repeat_spawn (n : Nat) (p : Pool) :
    ∃ counters, (Nat.repeat (spawn s target) n p).shared = { p.shared with counters } := by
  induction n with
  | zero => exact ⟨p.shared.counters, rfl⟩
  | succ n ih =>
    obtain ⟨counters, hcounters⟩ := ih
    exact ⟨_, by rw [Nat.repeat, shared_spawn, hcounters]⟩

/-- … and nobody waits because of it. -/
theorem idling_repeat_spawn (n : Nat) (p : Pool) :
    (Nat.repeat (spawn s target) n p).idling = p.idling := by
  induction n with
  | zero => rfl
  | succ n ih =>
    rw [← ih, Nat.repeat, idling, workers_spawn, List.countP_append]
    rfl

/-- The first of the workers that are to be started yet are started one by one. -/
theorem run_starting {n left : Nat} (hopening : p.coordinator = .opening (left + n)) :
    p.run s target (List.replicate n .coordinator) =
      some { Nat.repeat (spawn s target) n p with coordinator := .opening left } := by
  induction n generalizing left with
  | zero =>
    rw [Nat.add_zero] at hopening
    rw [List.replicate_zero, run, Nat.repeat, ← hopening]
  | succ n ih =>
    have hone : p.coordinator = .opening (left + 1 + n) := by
      rw [hopening, Nat.add_right_comm, Nat.add_assoc]
    rw [List.replicate_succ', run_append, ih hone, Option.bind_some, Nat.repeat]
    rfl

/-- **The pool right after it was opened can come about.** -/
theorem reachable_opened (s : Settings) (target : Target) :
    Reachable s target (opened s target) := by
  have hopening : (initial s).coordinator = .opening (0 + s.initialWorkers) := by
    rw [Nat.zero_add, initial]
  refine ⟨List.replicate s.initialWorkers .coordinator ++ [.coordinator], ?_⟩
  rw [run_append, run_starting hopening]
  rfl

theorem isOpen_opened (s : Settings) (target : Target) : (opened s target).isOpen = true := by
  rw [opened, isOpen]
  cases s.isDynamic <;> rfl

theorem shared_opened (s : Settings) (target : Target) :
    ∃ counters, (opened s target).shared = { (initial s).shared with counters } :=
  shared_repeat_spawn _ (initial s)

theorem idling_opened (s : Settings) (target : Target) : (opened s target).idling = 0 :=
  idling_repeat_spawn _ (initial s)

end Pool
end HttpReplay
