import HttpReplay.Proofs.Pool.Step
import Mathlib.Algebra.Group.Nat.Defs

/-!
The counters of a pool tell the truth.

Nothing in the word that holds both counts keeps them apart: a step of a worker adds or subtracts
one, or one in the upper half, and all of it wraps. What keeps them apart is what the workers are
in the middle of. The phase of a worker says whether it holds a slot and whether it counts as idle,
and each step that changes either is the very step that changes the word.

The invariant (`Counters.Tells`) is therefore an equation modulo the size of the word, which holds
of every reachable pool however many workers it has. Only at the end is it read as two counts, and
only there does it matter that fewer than `2 ^ 32` workers hold a slot.

The last worker of a dynamic pool stays because a worker leaves of its own accord only if it swaps a
word that shows another one (`Worker.Entitled`), and it can only swap the word that it saw.
-/

set_option autoImplicit false

namespace HttpReplay

open Pool (Shared)

/-! ## The word -/

namespace Counters

/-- The word tells that so many workers hold a slot and so many wait, as far as a word can. -/
def Tells (c : Counters) (live idling : Nat) : Prop :=
  c.word.toNat = (live * 2 ^ 32 + idling) % 2 ^ 64

variable {c : Counters} {live idling : Nat}

theorem oneActive_toNat : oneActive.toNat = 2 ^ 32 := by decide

theorem active_eq (c : Counters) : c.active = c.word.toNat / 2 ^ 32 := by
  rw [active, activeOf, UInt64.toNat_shiftRight, Nat.shiftRight_eq_div_pow]
  rfl

theorem idle_eq (c : Counters) : c.idle = c.word.toNat % 2 ^ 32 := by
  rw [idle, idleOf, UInt64.toNat_and]
  exact Nat.and_two_pow_sub_one_eq_mod _ 32

theorem tells_zero : zero.Tells 0 0 := rfl

theorem Tells.register (h : c.Tells live idling) : c.register.Tells (live + 1) idling := by
  unfold Tells at *
  rw [Counters.register, UInt64.toNat_add, h, oneActive_toNat]
  omega

theorem Tells.enterIdle (h : c.Tells live idling) : c.enterIdle.Tells live (idling + 1) := by
  unfold Tells at *
  rw [Counters.enterIdle, UInt64.toNat_add, h, UInt64.toNat_one]
  omega

theorem Tells.leaveIdle (h : c.Tells live (idling + 1)) : c.leaveIdle.Tells live idling := by
  unfold Tells at *
  rw [Counters.leaveIdle, UInt64.toNat_sub, h, UInt64.toNat_one]
  omega

theorem Tells.retire (h : c.Tells (live + 1) idling) : c.retire.Tells live idling := by
  unfold Tells at *
  rw [Counters.retire, UInt64.toNat_sub, h, oneActive_toNat]
  omega

/-- With fewer than `2 ^ 32` workers the word is both counts side by side. -/
theorem Tells.word_eq (h : c.Tells live idling) (hidling : idling ≤ live) (hlive : live < 2 ^ 32) :
    c.word.toNat = live * 2 ^ 32 + idling := by
  unfold Tells at h
  omega

/-- A word that lets a worker leave shows that there is another, even with more workers than it can
count. -/
theorem Tells.two_le_of_mayRetire (h : c.Tells live idling) (hidling : idling ≤ live)
    (hmay : mayRetire c.word = true) : 2 ≤ live := by
  have hactive : 1 < c.active := by simpa [mayRetire, active] using hmay
  rw [active_eq] at hactive
  unfold Tells at h
  omega

theorem retire_ne (c : Counters) :
    c.retire ≠ c ∧ c.retire ≠ c.enterIdle ∧ c.retire ≠ c.leaveIdle := by
  have hword : c.retire.word.toNat = (2 ^ 64 - 2 ^ 32 + c.word.toNat) % 2 ^ 64 := by
    rw [retire, UInt64.toNat_sub, oneActive_toNat]
  have henter : c.enterIdle.word.toNat = (c.word.toNat + 1) % 2 ^ 64 := UInt64.toNat_add ..
  have hleave : c.leaveIdle.word.toNat = (2 ^ 64 - 1 + c.word.toNat) % 2 ^ 64 := UInt64.toNat_sub ..
  have hbound := c.word.toNat_lt
  refine ⟨?_, ?_, ?_⟩ <;> intro h <;>
    have := congrArg (fun c => c.word.toNat) h <;> omega

end Counters

/-! ## What the counters should tell -/

namespace Worker

/-- Whether a worker in this phase has not given back its slot yet. -/
def Phase.holdsSlot : Phase → Bool
  | .reporting | .gone => false
  | _ => true

/-- Whether a worker in this phase counts as idle: it has begun to wait, and has not taken that
back. -/
def Phase.isIdle : Phase → Bool
  | .waiting | .woken _ => true
  | _ => false

theorem Phase.holdsSlot_of_isIdle {phase : Phase} (h : phase.isIdle = true) :
    phase.holdsSlot = true := by
  cases phase <;> first | rfl | cases h

theorem Phase.counts_of_isBetween {phase : Phase} (h : phase.isBetween = true) :
    phase.holdsSlot = true ∧ phase.isIdle = false := by
  cases phase <;> first | exact ⟨rfl, rfl⟩ | cases h

/-- What a step of a worker does to the counters, and to its phase meanwhile. -/
inductive Recounts : Counters → Phase → Counters → Phase → Prop
  /-- It leaves the counters alone. -/
  | same {c : Counters} {phase phase' : Phase} : phase'.holdsSlot = phase.holdsSlot →
      phase'.isIdle = phase.isIdle → Recounts c phase c phase'
  /-- It begins to wait. -/
  | enterIdle {c : Counters} {phase phase' : Phase} : phase'.holdsSlot = phase.holdsSlot →
      phase.isIdle = false → phase'.isIdle = true → Recounts c phase c.enterIdle phase'
  /-- It waits no longer. -/
  | leaveIdle {c : Counters} {phase phase' : Phase} : phase'.holdsSlot = phase.holdsSlot →
      phase.isIdle = true → phase'.isIdle = false → Recounts c phase c.leaveIdle phase'
  /-- It gives back its slot. -/
  | retire {c : Counters} {phase phase' : Phase} : phase.holdsSlot = true →
      phase'.holdsSlot = false → phase.isIdle = false → phase'.isIdle = false →
      Recounts c phase c.retire phase'

/-- A step between two payloads leaves the counters alone. -/
theorem Recounts.between {c : Counters} {phase phase' : Phase} (h : phase.isBetween = true)
    (h' : phase'.isBetween = true) : Recounts c phase c phase' := by
  obtain ⟨hslot, hidle⟩ := Phase.counts_of_isBetween h
  obtain ⟨hslot', hidle'⟩ := Phase.counts_of_isBetween h'
  exact .same (hslot'.trans hslot.symm) (hidle'.trans hidle.symm)

variable {s : Pool.Settings} {target : Target} {k : Nat}

/-- **A step changes the counters exactly as it changes what the worker counts as.** -/
theorem Moves.recounts {e : Event} {shared shared' : Shared} {w w' : Worker}
    (h : Moves s target k e shared w shared' w') :
    Recounts shared.counters w.phase shared'.counters w'.phase := by
  cases h with
  | rest hphase =>
    rw [hphase]
    exact .enterIdle rfl rfl rfl
  | @wake _ _ wake hphase =>
    rw [hphase]
    obtain ⟨data, -, h⟩ | ⟨-, h⟩ | ⟨-, h | h⟩ := afterWait_phase s w wake <;> rw [h] <;>
      exact .leaveIdle rfl rfl rfl
  | @leave _ _ why hphase =>
    rw [hphase]
    obtain h | h := leave_phase w why <;> rw [h] <;> exact .retire rfl rfl rfl rfl
  | retire hphase =>
    rw [hphase]
    exact .retire rfl rfl rfl rfl
  | finish hphase =>
    rw [hphase]
    exact .between rfl (isBetween_afterPayload s target w)
  | consider hphase | reload hphase =>
    rw [hphase]
    exact .between rfl (isBetween_consider s target w _ shared.counters.word)
  | check hphase =>
    rw [hphase]
    exact .between rfl (isBetween_check _)
  | @reply _ _ payload _ reply _ _ roundTrip hphase =>
    rw [hphase]
    obtain ⟨header, -, -, h⟩ | h := replyPhase_cases s payload reply roundTrip <;>
      simp only [h] <;> exact .same rfl rfl
  | lineUp => exact .same rfl rfl
  | take hphase | expire hphase | stop hphase | serve hphase | skip hphase | deliver hphase
  | giveUp hphase | report hphase =>
    rw [hphase]
    exact .same rfl rfl

/-- A step counts as giving back a slot if the worker had one and then has none. -/
theorem Recounts.eq_retire_iff {c c' : Counters} {phase phase' : Phase}
    (h : Recounts c phase c' phase') :
    c' = c.retire ↔ phase.holdsSlot = true ∧ phase'.holdsSlot = false := by
  obtain ⟨hself, henter, hleave⟩ := c.retire_ne
  cases h with
  | same hslot => simp [hslot, hself.symm]
  | enterIdle hslot => simp [hslot, henter.symm]
  | leaveIdle hslot => simp [hslot, hleave.symm]
  | retire hbefore hafter => simp [hbefore, hafter]

/-- A worker that has given back its slot never holds one again. -/
theorem Recounts.kept {c c' : Counters} {phase phase' : Phase} (h : Recounts c phase c' phase')
    (hout : phase.holdsSlot = false) : phase'.holdsSlot = false := by
  cases h with
  | same hslot | enterIdle hslot | leaveIdle hslot => rw [hslot, hout]
  | retire _ hafter => exact hafter

/-- A worker is in this phase only if it may be: it tries to leave only if it saw another one, and
it stops only if it has to. -/
def Entitled (shared : Shared) : Phase → Prop
  | .swapping _ seen => Counters.mayRetire seen = true
  | .woken .stopped | .stopping => shared.stopped = true ∨ shared.held = false
  | _ => True

theorem Entitled.of_later {shared shared' : Shared} {phase : Phase}
    (hlater : shared.Later shared') (h : Entitled shared phase) : Entitled shared' phase := by
  have hstop : shared.stopped = true ∨ shared.held = false →
      shared'.stopped = true ∨ shared'.held = false := Or.imp hlater.stopped hlater.not_held
  unfold Entitled at *
  split <;> first | exact hstop h | exact h | trivial

theorem Moves.entitled {e : Event} {shared shared' : Shared} {w w' : Worker}
    (h : Moves s target k e shared w shared' w') (hw : Entitled shared w.phase) :
    Entitled shared' w'.phase := by
  cases h with
  | stop hphase hover => exact hover.imp_right And.left
  | @wake _ _ wake hphase =>
    rw [hphase] at hw
    obtain ⟨data, -, h⟩ | ⟨rfl, h⟩ | ⟨-, h | h⟩ := afterWait_phase s w wake <;> rw [h]
    · trivial
    · exact hw
    · trivial
    · trivial
  | @leave _ _ why hphase => obtain h | h := leave_phase w why <;> rw [h] <;> trivial
  | finish hphase =>
    obtain h | h := afterPayload_phase s target w <;> rw [h] <;> trivial
  | @consider _ _ why hphase | @reload _ _ why _ hphase =>
    obtain ⟨hmay, h⟩ | h | h := consider_phase s target w why shared.counters.word <;> rw [h]
    · exact hmay
    · trivial
    · trivial
  | check hphase =>
    simp only [goTo]
    split <;> trivial
  | @reply _ _ payload _ reply _ _ roundTrip hphase =>
    obtain ⟨header, -, -, h⟩ | h := replyPhase_cases s payload reply roundTrip <;>
      simp only [h] <;> trivial
  | lineUp hphase =>
    rw [hphase]
    trivial
  | rest | take | expire | serve | skip | deliver | giveUp | report | retire => trivial

end Worker

namespace Pool

variable {s : Settings} {target : Target}

/-- How many workers of a pool have not given back their slot. -/
def live (p : Pool) : Nat := p.workers.countP fun w => w.phase.holdsSlot

def idling (p : Pool) : Nat := p.workers.countP fun w => w.phase.isIdle

theorem idling_le_live (p : Pool) : p.idling ≤ p.live :=
  List.countP_mono_left fun _ _ => Worker.Phase.holdsSlot_of_isIdle

/-! What steps make of both counts: one worker's step changes the counts by what it counts as before
and after it, and a worker that is started holds a slot. -/

section Counts

variable {p : Pool} {k : Nat} {w : Worker} (shared : Shared) (w' : Worker)

theorem live_set (h : p.workers[k]? = some w) :
    live { p with shared, workers := p.workers.set k w' } + w.phase.holdsSlot.toNat =
      p.live + w'.phase.holdsSlot.toNat :=
  countP_set_add (f := fun w : Worker => w.phase.holdsSlot) h

theorem idling_set (h : p.workers[k]? = some w) :
    idling { p with shared, workers := p.workers.set k w' } + w.phase.isIdle.toNat =
      p.idling + w'.phase.isIdle.toNat :=
  countP_set_add (f := fun w : Worker => w.phase.isIdle) h

theorem live_spawn (p : Pool) (target : Target) : (p.spawn s target).live = p.live + 1 := by
  rw [live, spawn, List.countP_append]
  rfl

end Counts

/-- **The counters of a reachable pool tell how many of its workers hold a slot and how many wait,
as far as a word can.** -/
theorem Reachable.tells {p : Pool} (h : Reachable s target p) :
    p.shared.counters.Tells p.live p.idling := by
  refine Reachable.induction (P := fun p => p.shared.counters.Tells p.live p.idling)
    Counters.tells_zero ?_ h
  intro e p q _ ih hmove
  cases hmove.staffing with
  | @worker _ k _ w w' shared' hw hw' =>
    -- What the worker counts as before and after its step, against both counts.
    have hlive := live_set shared' w' hw
    have hidling := idling_set shared' w' hw
    dsimp only
    generalize live { p with shared := shared', workers := p.workers.set k w' } = live' at *
    generalize idling { p with shared := shared', workers := p.workers.set k w' } = idling' at *
    have hcounts := hw'.recounts
    generalize shared'.counters = c' at hcounts ⊢
    cases hcounts with
    | same hslot hidle =>
      rw [hslot] at hlive
      rw [hidle] at hidling
      obtain rfl : live' = p.live := by omega
      obtain rfl : idling' = p.idling := by omega
      exact ih
    | enterIdle hslot hbefore hafter =>
      rw [hslot] at hlive
      rw [hbefore, hafter] at hidling
      obtain rfl : live' = p.live := by omega
      obtain rfl : idling' = p.idling + 1 := hidling
      exact ih.enterIdle
    | leaveIdle hslot hbefore hafter =>
      rw [hslot] at hlive
      rw [hbefore, hafter] at hidling
      obtain rfl : live' = p.live := by omega
      have hone : p.idling = idling' + 1 := hidling.symm
      rw [hone] at ih
      exact ih.leaveIdle
    | retire hbefore hafter hidle hidle' =>
      rw [hbefore, hafter] at hlive
      rw [hidle, hidle'] at hidling
      obtain rfl : idling' = p.idling := hidling
      have hone : p.live = live' + 1 := hlive.symm
      rw [hone] at ih
      exact ih.retire
  | spawn hworkers hshared =>
    have hlive : q.live = p.live + 1 := by
      rw [live, hworkers, List.countP_append]
      rfl
    have hidling : q.idling = p.idling := by
      rw [idling, hworkers, List.countP_append]
      rfl
    rw [hlive, hidling, hshared]
    exact ih.register
  | other _ hworkers hcounters _ =>
    rw [hcounters, live, idling, hworkers]
    exact ih

/-! ## The last worker -/

theorem Reachable.entitled {p : Pool} (h : Reachable s target p) :
    ∀ w ∈ p.workers, Worker.Entitled p.shared w.phase :=
  h.forall_worker (P := fun shared w => Worker.Entitled shared w.phase) (fun _ => trivial)
    Worker.Moves.entitled Worker.Entitled.of_later

/-- How many of the first workers are to be started yet. -/
def due (p : Pool) : Nat :=
  match p.coordinator with
  | .opening left => left
  | _ => 0

/-- Where three times the idle floor is a size, the aim of the pool is not cut. -/
theorem Settings.idleAim_of_floor (hfloor : s.idleWorkers * 3 ≤ Numeral.maxSize) :
    s.idleAim = s.idleWorkers * 3 / 2 := by
  rw [idleAim, Nat.mod_eq_of_lt (Nat.lt_succ_of_le hfloor)]

/-- A dynamic pool starts with a worker, provided that three times its idle floor is a size. -/
theorem Settings.initialWorkers_pos (hdynamic : s.isDynamic = true)
    (hfloor : s.idleWorkers * 3 ≤ Numeral.maxSize) : 1 ≤ s.initialWorkers := by
  simp only [initialWorkers, hdynamic, Bool.not_true, Bool.false_eq_true, if_false]
  split
  next => exact (by decide : 1 ≤ defaultStart)
  next hnone =>
    simp only [growth, hnone, if_false, Nat.le_zero, Nat.sub_zero, Nat.max_self,
      idleAim_of_floor hfloor]
    omega

/-- Giving back a slot leaves another worker, unless the worker had to stop. -/
theorem Reachable.two_le_live {p : Pool} (h : Reachable s target p) {k : Nat} {e : Worker.Event}
    {w w' : Worker} {shared' : Shared} (hw : p.workers[k]? = some w)
    (hmove : Worker.Moves s target k e p.shared w shared' w')
    (hbefore : w.phase.holdsSlot = true) (hafter : w'.phase.holdsSlot = false)
    (hstopped : p.shared.stopped = false) (hheld : p.shared.held = true) : 2 ≤ p.live := by
  have hentitled := h.entitled w (List.mem_of_getElem? hw)
  have hcounters := hmove.recounts.eq_retire_iff.2 ⟨hbefore, hafter⟩
  obtain ⟨hself, henter, hleave⟩ := p.shared.counters.retire_ne
  cases hmove with
  | leave hphase =>
    rw [hphase] at hentitled
    exact h.tells.two_le_of_mayRetire p.idling_le_live hentitled
  | retire hphase =>
    rw [hphase] at hentitled
    obtain hover | hover := hentitled
    · rw [hstopped] at hover
      cases hover
    · rw [hheld] at hover
      cases hover
  -- No other step gives back a slot.
  | rest => exact absurd hcounters.symm henter
  | wake => exact absurd hcounters.symm hleave
  | _ => exact absurd hcounters.symm hself

/-- **A dynamic pool keeps a worker until it is told to stop or nobody is left.** -/
theorem Reachable.staffed {p : Pool} (h : Reachable s target p) (hdynamic : s.isDynamic = true)
    (hfloor : s.idleWorkers * 3 ≤ Numeral.maxSize) (hstopped : p.shared.stopped = false)
    (hheld : p.shared.held = true) : 1 ≤ p.live + p.due := by
  revert hstopped hheld
  refine Reachable.induction (P := fun p => p.shared.stopped = false → p.shared.held = true →
    1 ≤ p.live + p.due) ?_ ?_ h
  · intro _ _
    have := Settings.initialWorkers_pos hdynamic hfloor
    exact Nat.le_trans this (Nat.le_add_left _ _)
  intro e p q hp ih hmove hstopped hheld
  have hstopped' := hmove.later.not_stopped hstopped
  have hheld' := hmove.later.held hheld
  have hone := ih hstopped' hheld'
  cases hmove with
  | @worker _ k _ w w' shared' hw hw' =>
    have hlive := live_set shared' w' hw
    change 1 ≤ _ + p.due
    -- The number of workers only goes down where one gives back its slot.
    cases hbefore : w.phase.holdsSlot with
    | false =>
      rw [hbefore, Bool.toNat_false] at hlive
      omega
    | true =>
      cases hafter : w'.phase.holdsSlot with
      | false =>
        have := hp.two_le_live hw hw' hbefore hafter hstopped' hheld'
        rw [hbefore, hafter, Bool.toNat_true, Bool.toNat_false] at hlive
        omega
      | true =>
        rw [hbefore, hafter] at hlive
        omega
  | start | hire =>
    have hlive := live_spawn (s := s) p target
    change 1 ≤ (p.spawn s target).live + _
    omega
  | opened hcoordinator =>
    rw [due, hcoordinator] at hone
    exact Nat.le_trans hone (Nat.le_add_right _ _)
  | resize hcoordinator | decide hcoordinator | hired hcoordinator
  | stopCoordinator hcoordinator =>
    rw [due, hcoordinator] at hone
    exact hone
  | accept | pass | measure | compare | ask | read | stop | drop => exact hone

/-! ## Slots given back -/

/-- Whether worker `k` gives back its slot in a step. -/
def givesBack (k : Nat) (e : Event) (p q : Pool) : Bool :=
  match e with
  | .worker k' _ => k' == k && q.shared.counters == p.shared.counters.retire
  | _ => false

/-- How many times worker `k` gives back its slot in a run. -/
def handBacks (s : Settings) (target : Target) (k : Nat) (p : Pool) : List Event → Nat
  | [] => 0
  | e :: events =>
    match p.step s target e with
    | none => 0
    | some q => (givesBack k e p q).toNat + handBacks s target k q events

/-- Whether worker `k` has been started and does not hold a slot any more. -/
def isOut (p : Pool) (k : Nat) : Bool := p.workers[k]?.any fun w => !w.phase.holdsSlot

/-- Once a worker is out it stays so, and it gives back its slot in the one step that brings it
there. -/
theorem Moves.toNat_isOut {e : Event} {p q : Pool} (h : Moves s target e p q) (k : Nat) :
    (q.isOut k).toNat = (p.isOut k).toNat + (givesBack k e p q).toNat := by
  cases h.staffing with
  | @worker _ k' f w w' shared' hw hw' =>
    by_cases hk : k' = k
    · subst hk
      obtain ⟨hk, -⟩ := List.getElem?_eq_some_iff.1 hw
      have hset : (p.workers.set k' w')[k']? = some w' := List.getElem?_set_self hk
      -- The step takes one off the upper half exactly if it is the one that gives back the slot.
      have hgives : (shared'.counters == p.shared.counters.retire) =
          (w.phase.holdsSlot && !w'.phase.holdsSlot) :=
        Bool.eq_iff_iff.2 (by simp [hw'.recounts.eq_retire_iff])
      have hkept := hw'.recounts.kept
      simp only [isOut, hset, hw, givesBack, hgives, Option.any_some, beq_self_eq_true,
        Bool.true_and]
      cases hbefore : w.phase.holdsSlot with
      | false => simp [hkept hbefore]
      | true => cases w'.phase.holdsSlot <;> rfl
    · have hother : (p.workers.set k' w')[k]? = p.workers[k]? := List.getElem?_set_ne hk
      simp [isOut, hother, givesBack, hk]
  | spawn hworkers _ =>
    rw [isOut, isOut, hworkers, List.getElem?_append]
    split
    next => rfl
    next hk =>
      rw [List.getElem?_eq_none (l := p.workers) (Nat.not_lt.1 hk)]
      cases k - p.workers.length <;> rfl
  | other hevent hworkers _ _ =>
    rw [isOut, isOut, hworkers]
    cases e with
    | worker k' f => exact absurd rfl (hevent k' f)
    | _ => rfl

/-- Over a run a worker gives back its slot as often as it comes to be out: once or not at all. -/
theorem isOut_of_run {events : List Event} {p q : Pool} (h : p.run s target events = some q)
    (k : Nat) : (q.isOut k).toNat = (p.isOut k).toNat + handBacks s target k p events := by
  induction events generalizing p with
  | nil =>
    obtain rfl := Option.some.inj h
    rfl
  | cons e events ih =>
    obtain ⟨p', hp', hrun⟩ := Option.bind_eq_some_iff.1 h
    have hfirst := (moves_of_step hp').toNat_isOut k
    have hrest := ih hrun
    simp only [handBacks, hp']
    omega

/-! ## The counters -/

/-- What the counters of a pool tell after a run, and what the run has done to them. -/
structure Truthful (s : Settings) (target : Target) (events : List Event) (p : Pool) : Prop where
  /-- The word is both counts side by side. -/
  word : p.shared.counters.word.toNat = p.live * 2 ^ 32 + p.idling
  /-- The upper half counts the workers that have not given back their slot, … -/
  active : p.shared.counters.active = p.live
  /-- … the lower half those that wait, … -/
  idle : p.shared.counters.idle = p.idling
  /-- … and no look at the word shows more of these than of those. -/
  idle_le_active : p.shared.counters.idle ≤ p.shared.counters.active
  /-- A worker has given back its slot once if it holds none any more, and not at all before. -/
  once : ∀ k w, p.workers[k]? = some w →
    handBacks s target k (initial s) events = if w.phase.holdsSlot then 0 else 1
  /-- A dynamic pool that has been opened has a worker until it is told to stop or whoever writes
  and reads is gone. -/
  staffed : s.isDynamic = true → s.idleWorkers * 3 ≤ Numeral.maxSize → p.isOpen = true →
    p.shared.stopped = false → p.shared.held = true → 1 ≤ p.shared.counters.active
  /-- Once all workers are gone, as they come to be when everything is told to stop, both counts are
  zero. -/
  emptied : (∀ w ∈ p.workers, w.phase = .gone) →
    p.shared.counters.active = 0 ∧ p.shared.counters.idle = 0

/-- **The counters of a pool tell the truth** after every run, in whatever order its workers, its
writers and its coordinator took their steps, as long as fewer than `2 ^ 32` workers hold a slot. -/
theorem counters_truthful {events : List Event} {p : Pool}
    (hrun : (initial s).run s target events = some p) (hfew : p.live < 2 ^ 32) :
    Truthful s target events p := by
  have hreachable : Reachable s target p := ⟨events, hrun⟩
  have hword := hreachable.tells.word_eq p.idling_le_live hfew
  have hidling := p.idling_le_live
  have hactive : p.shared.counters.active = p.live := by
    rw [Counters.active_eq, hword]
    omega
  have hidle : p.shared.counters.idle = p.idling := by
    rw [Counters.idle_eq, hword]
    omega
  refine ⟨hword, hactive, hidle, by omega, ?_, ?_, ?_⟩
  · intro k w hw
    -- No worker is out before the run, so it gave back its slot as often as it is out now.
    have hout := isOut_of_run hrun k
    have hnone : (initial s).isOut k = false := rfl
    rw [hnone, isOut, hw, Option.any_some, Bool.toNat_false, Nat.zero_add] at hout
    rw [← hout]
    cases w.phase.holdsSlot <;> rfl
  · intro hdynamic hfloor hopen hstopped hheld
    have hone := hreachable.staffed hdynamic hfloor hstopped hheld
    -- All of the first workers have been started.
    have hdue : p.due = 0 := by
      unfold isOpen at hopen
      unfold due
      cases hcoordinator : p.coordinator with
      | opening left => simp [hcoordinator] at hopen
      | _ => rfl
    omega
  · intro hgone
    have hlive : p.live = 0 := List.countP_eq_zero.2 fun w hw => by
      simp [hgone w hw, Worker.Phase.holdsSlot]
    omega

/-! ## Two workers that leave at once

A pool of three workers that are done after one payload. Two of them see each other before they
leave; the second finds the counters changed, looks again and leaves as well.
-/

/-- A pool with an idle floor of two, which starts three workers. -/
def racing : Settings where
  idleWorkers := 2
  recycle := 1

/-- The two workers take a payload each, which is passed over, and leave; the third waits. -/
def racingEvents : List Event :=
  List.replicate 4 .coordinator ++
    [.worker 0 .proceed, .worker 1 .proceed, .worker 2 .proceed,
      .write [0x31, 0x20], .write [0x31, 0x20], .worker 0 .lineUp, .worker 1 .lineUp,
      .worker 0 .take, .worker 1 .take] ++
    (List.replicate 4 [.worker 0 .proceed, .worker 1 .proceed]).flatten ++
    [.worker 0 .swap, .worker 1 .reload, .worker 1 .swap]

theorem counters_truthful_racing :
    ∃ p, (initial racing).run racing (.onHost .http "site" none) racingEvents = some p ∧
      p.live = 1 ∧ p.idling = 1 ∧
      Truthful racing (.onHost .http "site" none) racingEvents p := by
  have hrun : ((initial racing).run racing (.onHost .http "site" none) racingEvents).any
      (fun p => p.live == 1 && p.idling == 1) = true := by decide +kernel
  obtain ⟨p, hp, hcounts⟩ := (Option.any_eq_true _ _).1 hrun
  simp only [Bool.and_eq_true, beq_iff_eq] at hcounts
  exact ⟨p, hp, hcounts.1, hcounts.2, counters_truthful hp (by omega)⟩

end Pool
end HttpReplay
