import HttpReplay.Emitter.Basic
import Mathlib.Data.List.Induction

/-!
What an emitter can do in one step, and what its log says afterwards.

`Copier.Moves` and `Moves` list the steps, one constructor for each, and `moves_iff` says that these
are the steps of the machine. A run is a list of actions: the copiers' steps in any order, and
between them, whenever it comes, the signal to stop.

Of the log only two things are asked: which payloads an input has yielded (`received`), and which of
them an output was handed (`handed`), both in order. A step adds entries of one input, so it changes
what these say of that input alone.
-/

set_option autoImplicit false

namespace HttpReplay.Emitter

/-! ## Steps of a copier -/

/-- The steps of the copier of input `i`: the event, the copier before and after it, and what it
makes known. -/
inductive Copier.Moves (s : Settings) (stopped : Bool) (i : Nat) :
    Event → Copier → Copier → Option Entry → Prop
  /-- It gets a payload. -/
  | receive {c : Copier} (payload : Bytes) : c.phase = .reading →
      Moves s stopped i (.receive payload) c
        ⟨phaseFor payload (s.targets c.turn), s.nextTurn c.turn⟩ (some (.received i payload))
  /-- Its input has ended. -/
  | close {c : Copier} : c.phase = .reading →
      Moves s stopped i .close c { c with phase := .ended } none
  /-- It begins to write. -/
  | hand {c : Copier} {payload : Bytes} {output : Nat} {more : List Nat} :
      c.phase = .holding payload (output :: more) →
      Moves s stopped i .hand c { c with phase := .writing payload output more }
        (some (.handed i output payload))
  /-- It is done with a write. -/
  | written {c : Copier} {payload : Bytes} {output : Nat} {more : List Nat} (success : Bool) :
      c.phase = .writing payload output more →
      Moves s stopped i (.written success) c { c with phase := phaseFor payload more }
        (some (.written i output success))
  /-- A write breaks it. -/
  | crash {c : Copier} {payload : Bytes} {output : Nat} {more : List Nat} :
      c.phase = .writing payload output more →
      Moves s stopped i .crash c { c with phase := .ended } none
  /-- It has to stop. -/
  | stop {c : Copier} : stopped = true → c.phase ≠ .ended →
      Moves s stopped i .stop c { c with phase := .ended } none

/-- **A copier has no other steps.** -/
theorem Copier.moves_iff {s : Settings} {stopped : Bool} {i : Nat} {event : Event}
    {c c' : Copier} {entry : Option Entry} :
    c.step s stopped i event = some (c', entry) ↔ Moves s stopped i event c c' entry := by
  constructor
  · intro h
    cases event with
    | receive payload =>
      simp only [step] at h
      split at h
      next hphase => cases h; exact .receive payload hphase
      next => cases h
    | close =>
      simp only [step] at h
      split at h
      next hphase => cases h; exact .close hphase
      next => cases h
    | hand =>
      simp only [step] at h
      split at h
      next payload output more hphase => cases h; exact .hand hphase
      next => cases h
    | written success =>
      simp only [step] at h
      split at h
      next payload output more hphase => cases h; exact .written success hphase
      next => cases h
    | crash =>
      simp only [step] at h
      split at h
      next payload output more hphase => cases h; exact .crash hphase
      next => cases h
    | stop =>
      simp only [step, Option.ite_none_right_eq_some] at h
      obtain ⟨⟨hstopped, hphase⟩, h⟩ := h
      cases h
      exact .stop hstopped hphase
  · rintro (h | h | h | h | h | ⟨hstopped, h⟩)
    all_goals simp [step, *]

/-! ## Runs -/

/-- What may happen to an emitter. -/
inductive Action where
  /-- Something happens to the copier of an input. -/
  | copier (input : Nat) (event : Event)
  /-- Everything is told to stop. -/
  | stop
  deriving DecidableEq, Repr

/-- One step of an emitter. There is none where the action cannot happen. -/
def act (s : Settings) (e : Emitter) : Action → Option Emitter
  | .copier i event => e.step s i event
  | .stop => some e.stop

/-- All steps of a list of actions, while they can happen. -/
def run (s : Settings) (e : Emitter) : List Action → Option Emitter
  | [] => some e
  | a :: actions => (e.act s a).bind fun e' => e'.run s actions

/-- The steps of an emitter: the action, and the emitter before and after it. -/
inductive Moves (s : Settings) : Action → Emitter → Emitter → Prop
  | copier {e : Emitter} {i : Nat} {event : Event} {c c' : Copier} {entry : Option Entry} :
      e.copiers[i]? = some c → Copier.Moves s e.stopped i event c c' entry →
      Moves s (.copier i event) e
        { e with copiers := e.copiers.set i c', log := entry.toList ++ e.log }
  | stop {e : Emitter} : Moves s .stop e e.stop

variable {s : Settings}

theorem moves_iff {a : Action} {e e' : Emitter} : e.act s a = some e' ↔ Moves s a e e' := by
  constructor
  · intro h
    cases a with
    | copier i event =>
      simp only [act, step] at h
      split at h
      next => cases h
      next c hc =>
        obtain ⟨⟨c', entry⟩, hstep, rfl⟩ := Option.map_eq_some_iff.1 h
        exact .copier hc (Copier.moves_iff.1 hstep)
    | stop =>
      cases h
      exact .stop
  · rintro (⟨hc, hmove⟩ | _)
    · simp only [act, step, hc, Copier.moves_iff.2 hmove, Option.map_some]
    · rfl

theorem run_append {e : Emitter} {as bs : List Action} :
    e.run s (as ++ bs) = (e.run s as).bind fun e' => e'.run s bs := by
  induction as generalizing e with
  | nil => rfl
  | cons a as ih => simp only [List.cons_append, run, Option.bind_assoc, ih]

/-- **What holds at the start of a run and is kept by each of its steps holds at its end.** -/
theorem run_induction {P : List Action → Emitter → Prop} {e₀ : Emitter} (hstart : P [] e₀)
    (hstep : ∀ as a e e', P as e → Moves s a e e' → P (as ++ [a]) e') {as : List Action}
    {e : Emitter} (h : e₀.run s as = some e) : P as e := by
  -- The induction is on the run from its end, so that the step to look at is the last.
  induction as using List.reverseRecOn generalizing e with
  | nil =>
    cases h
    exact hstart
  | append_singleton as a ih =>
    rw [run_append] at h
    obtain ⟨e', he', hlast⟩ := Option.bind_eq_some_iff.1 h
    obtain ⟨e'', he'', hdone⟩ := Option.bind_eq_some_iff.1 hlast
    cases hdone
    exact hstep as a e' e (ih he') (moves_iff.1 he'')

/-! ## What the log says -/

def Entry.received? (i : Nat) : Entry → Option Bytes
  | .received input payload => if input = i then some payload else none
  | _ => none

def Entry.handed? (i j : Nat) : Entry → Option Bytes
  | .handed input output payload => if input = i ∧ output = j then some payload else none
  | _ => none

/-- The payloads that input `i` has yielded, the first of them first. -/
def received (e : Emitter) (i : Nat) : List Bytes := (e.log.filterMap (Entry.received? i)).reverse

/-- The payloads of input `i` that output `j` was handed, the first of them first. -/
def handed (e : Emitter) (i j : Nat) : List Bytes :=
  (e.log.filterMap (Entry.handed? i j)).reverse

/-- What a step adds to the payloads that input `i` has yielded. -/
def newlyReceived (i : Nat) (entry : Option Entry) : List Bytes :=
  (entry.bind (Entry.received? i)).toList

def newlyHanded (i j : Nat) (entry : Option Entry) : List Bytes :=
  (entry.bind (Entry.handed? i j)).toList

section Log

variable {e : Emitter} {copiers : List Copier} (entry : Option Entry)

theorem received_step (i : Nat) :
    received { e with copiers, log := entry.toList ++ e.log } i =
      e.received i ++ newlyReceived i entry := by
  unfold received newlyReceived
  rw [List.filterMap_append, List.reverse_append]
  cases entry with
  | none => rfl
  | some entry =>
    cases h : entry.received? i <;> simp [h]

theorem handed_step (i j : Nat) :
    handed { e with copiers, log := entry.toList ++ e.log } i j =
      e.handed i j ++ newlyHanded i j entry := by
  unfold handed newlyHanded
  rw [List.filterMap_append, List.reverse_append]
  cases entry with
  | none => rfl
  | some entry =>
    cases h : entry.handed? i j <;> simp [h]

end Log

/-- **A copier makes known only what has to do with its own input.** -/
theorem Copier.Moves.newly_of_ne {stopped : Bool} {i k : Nat} {event : Event} {c c' : Copier}
    {entry : Option Entry} (h : Copier.Moves s stopped i event c c' entry) (hk : i ≠ k) :
    newlyReceived k entry = [] ∧ ∀ j, newlyHanded k j entry = [] := by
  cases h <;> simp [newlyReceived, newlyHanded, Entry.received?, Entry.handed?, hk]

end HttpReplay.Emitter
