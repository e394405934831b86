import HttpReplay.Plugin.Assembly
import HttpReplay.Proofs.Emitter.Step
import HttpReplay.Proofs.Pool.Step

/-!
An emitter and the pools that it writes to and reads from, as one machine.

Nothing is added to what the emitter and the pools do. What is said here is how their steps belong
together. A copier that reads from a pool gets what the pool is read. A copier that writes to a pool
is done with a payload that is no request when the pool has looked at it; a request it first has to
get into the queue, and it is done when the pool's writer is. What other inputs yield, when they end,
and how a write to another output ends comes from outside, in any order.

Everything goes on: nothing is told to stop, the pools are held by the copiers, and no write breaks a
copier. An input that is a pool does not end either, since a pool that is held keeps open what its
responses come through.
-/

set_option autoImplicit false

namespace HttpReplay

/-! ## Wiring -/

/-- The plugins of an emitter, and which of the inputs are outputs as well. -/
structure Wiring where
  plugins : Plugins
  /-- Whether each payload goes to one output in turn. -/
  split : Bool
  /-- For each input, the output whose responses it yields, if there is one. -/
  origins : List (Option Nat)
  length_origins : origins.length = plugins.inputs.length
  /-- Every output that yields payloads is an input. -/
  registered : ∀ j output, plugins.outputs[j]? = some output → output.asInput? ≠ none →
    some j ∈ origins

namespace Wiring

def none (split : Bool) : Wiring where
  plugins := .none
  split := split
  origins := []
  length_origins := rfl
  registered := nofun

/-- The wiring with an input that has nothing to do with the outputs. -/
def withInput (w : Wiring) (input : Input) : Wiring where
  plugins := w.plugins.withInput input
  split := w.split
  origins := w.origins ++ [Option.none]
  length_origins := by
    rw [Plugins.withInput, List.length_append, List.length_append, w.length_origins]
    rfl
  registered := fun j output houtput hinput =>
    List.mem_append_left _ (w.registered j output houtput hinput)

/-- The wiring with an output, and its input if it has one. -/
def withOutput (w : Wiring) (output : Output) : Wiring where
  plugins := w.plugins.withOutput output
  split := w.split
  origins := w.origins ++ (output.asInput?.map fun _ => some w.plugins.outputs.length).toList
  length_origins := by
    rw [Plugins.withOutput, List.length_append, List.length_append, w.length_origins]
    cases output.asInput? <;> rfl
  registered := by
    intro j output' houtput hinput
    rw [Plugins.withOutput] at houtput
    dsimp only at houtput
    rw [List.mem_append]
    by_cases hold : j < w.plugins.outputs.length
    · rw [List.getElem?_append_left hold] at houtput
      exact .inl (w.registered j output' houtput hinput)
    · -- It is the output that is added.
      have hone := (List.getElem?_eq_some_iff.1 houtput).1
      rw [List.length_append, List.length_singleton] at hone
      obtain rfl : j = w.plugins.outputs.length := by omega
      rw [List.getElem?_concat_length] at houtput
      cases houtput
      obtain ⟨input, hinput⟩ := Option.ne_none_iff_exists'.1 hinput
      right
      rw [hinput]
      exact List.mem_singleton.2 rfl

/-- How payloads are handed out. -/
def emitter (w : Wiring) : Emitter.Settings := ⟨w.plugins.outputs.length, w.split⟩

/-- The output whose responses input `i` yields. -/
def origin? (w : Wiring) (i : Nat) : Option Nat := w.origins[i]?.join

end Wiring

/-! ## States -/

namespace Pipeline

/-- A pool as an output. -/
structure Outlet where
  target : Target
  settings : Pool.Settings
  pool : Pool
  /-- The copiers that the pool's writers write for. -/
  authors : List Nat
  deriving DecidableEq, Repr

namespace Outlet

def output (o : Outlet) : Output := .replay o.target o.settings

def step (o : Outlet) (e : Pool.Event) : Option Outlet :=
  (o.pool.step o.settings o.target e).map fun pool => { o with pool }

/-- The outlet whose pool accepts a request of copier `i`, if it does. -/
def accept (o : Outlet) (i : Nat) (payload : Bytes) : Option Outlet :=
  (o.step (.write payload)).map fun o => { o with authors := o.authors ++ [i] }

end Outlet

/-- What may happen. -/
inductive Event where
  /-- An input that is no pool yields a payload. -/
  | receive (input : Nat) (payload : Bytes)
  /-- Such an input ends. -/
  | close (input : Nat)
  /-- An input that is a pool yields a response. -/
  | read (input : Nat) (now : Moment)
  /-- The copier of an input begins to write. -/
  | hand (input : Nat)
  /-- The copier of an input writes to a pool. -/
  | write (input : Nat)
  /-- The copier of an input is done with a write to another output. -/
  | written (input : Nat) (success : Bool)
  /-- A writer of a pool goes on. -/
  | writer (output : Nat) (n : Nat)
  /-- Something happens to a worker of a pool. -/
  | worker (output : Nat) (k : Nat) (event : Worker.Event)
  /-- The coordinator of a pool goes on. -/
  | coordinator (output : Nat)
  deriving DecidableEq, Repr

end Pipeline

structure Pipeline where
  emitter : Emitter
  /-- The outputs that are pools, by number. -/
  outlets : List (Option Pipeline.Outlet)
  deriving DecidableEq, Repr

namespace Pipeline

def outlet? (p : Pipeline) (j : Nat) : Option Outlet := p.outlets[j]?.join

def setOutlet (p : Pipeline) (j : Nat) (o : Outlet) : Pipeline :=
  { p with outlets := p.outlets.set j (some o) }

/-- What the copier of input `i` writes, and to which output. -/
def writing? (p : Pipeline) (i : Nat) : Option (Bytes × Nat) :=
  match p.emitter.copiers[i]? with
  | some ⟨.writing payload j _, _⟩ => some (payload, j)
  | _ => none

/-! ## Steps -/

/-- Something happens to the copier of input `i`. -/
def stepCopier (w : Wiring) (p : Pipeline) (i : Nat) (e : Emitter.Event) : Option Pipeline :=
  (p.emitter.step w.emitter i e).map fun emitter => { p with emitter }

/-- Something happens to the pool of output `j`. -/
def stepPool (p : Pipeline) (j : Nat) (e : Pool.Event) : Option Pipeline :=
  (p.outlet? j).bind fun o => (o.step e).map fun o => p.setOutlet j o

/-- Input `i` yields the oldest response of its pool. -/
def read (w : Wiring) (p : Pipeline) (i : Nat) (now : Moment) : Option Pipeline :=
  (w.origin? i).bind fun j => (p.outlet? j).bind fun o =>
    match o.pool.shared.responses with
    | [] => none
    | r :: _ => (p.stepPool j .read).bind fun q => q.stepCopier w i (.receive (r.payload now))

/-- The copier of input `i` writes to a pool. With a request it does so once. -/
def write (w : Wiring) (p : Pipeline) (i : Nat) : Option Pipeline :=
  (p.writing? i).bind fun (payload, j) => (p.outlet? j).bind fun o =>
    if Payload.isRequest payload then
      if i ∈ o.authors then none else (o.accept i payload).map fun o => p.setOutlet j o
    else (p.stepPool j (.write payload)).bind fun q => q.stepCopier w i (.written true)

/-- The copier of input `i` is done with a write to an output that is no pool. -/
def finish (w : Wiring) (p : Pipeline) (i : Nat) (success : Bool) : Option Pipeline :=
  (p.writing? i).bind fun (_, j) =>
    if (p.outlet? j).isNone then p.stepCopier w i (.written success) else none

/-- Writer `n` of a pool goes on. When it is done, so is the copier that it writes for. -/
def stepWriter (w : Wiring) (p : Pipeline) (j n : Nat) : Option Pipeline :=
  (p.outlet? j).bind fun o => (o.step (.writer n)).bind fun o' =>
    if o'.pool.writers.length < o.pool.writers.length then
      (o.authors[n]?).bind fun i =>
        (p.setOutlet j { o' with authors := o.authors.eraseIdx n }).stepCopier w i (.written true)
    else some (p.setOutlet j o')

/-- **One step of a pipeline.** There is none where the event cannot happen. -/
def step (w : Wiring) (p : Pipeline) : Event → Option Pipeline
  | .receive i payload =>
    if w.origin? i = none then p.stepCopier w i (.receive payload) else none
  | .close i => if w.origin? i = none then p.stepCopier w i .close else none
  | .read i now => p.read w i now
  | .hand i => p.stepCopier w i .hand
  | .write i => p.write w i
  | .written i success => p.finish w i success
  | .writer j n => p.stepWriter w j n
  | .worker j k e => p.stepPool j (.worker k e)
  | .coordinator j => p.stepPool j .coordinator

/-- The steps of a pipeline: the event, and the pipeline before and after it. -/
inductive Moves (w : Wiring) : Event → Pipeline → Pipeline → Prop
  | receive {p q : Pipeline} {i : Nat} {payload : Bytes} : w.origin? i = none →
      p.stepCopier w i (.receive payload) = some q → Moves w (.receive i payload) p q
  | close {p q : Pipeline} {i : Nat} : w.origin? i = none →
      p.stepCopier w i .close = some q → Moves w (.close i) p q
  | read {p p' q : Pipeline} {i j : Nat} {now : Moment} {o : Outlet} {r : TrackedResponse}
      {rest : List TrackedResponse} : w.origin? i = some j → p.outlet? j = some o →
      o.pool.shared.responses = r :: rest → p.stepPool j .read = some p' →
      p'.stepCopier w i (.receive (r.payload now)) = some q → Moves w (.read i now) p q
  | hand {p q : Pipeline} {i : Nat} : p.stepCopier w i .hand = some q → Moves w (.hand i) p q
  /-- A request gets into the queue of a pool. -/
  | accept {p : Pipeline} {i j : Nat} {payload : Bytes} {o o' : Outlet} :
      p.writing? i = some (payload, j) → p.outlet? j = some o →
      Payload.isRequest payload = true → i ∉ o.authors → o.accept i payload = some o' →
      Moves w (.write i) p (p.setOutlet j o')
  /-- A pool passes over what is no request. -/
  | pass {p p' q : Pipeline} {i j : Nat} {payload : Bytes} {o : Outlet} :
      p.writing? i = some (payload, j) → p.outlet? j = some o →
      Payload.isRequest payload = false → p.stepPool j (.write payload) = some p' →
      p'.stepCopier w i (.written true) = some q → Moves w (.write i) p q
  /-- Another output is done with a payload. -/
  | written {p q : Pipeline} {i j : Nat} {payload : Bytes} {success : Bool} :
      p.writing? i = some (payload, j) → p.outlet? j = none →
      p.stepCopier w i (.written success) = some q → Moves w (.written i success) p q
  /-- A writer has more to do. -/
  | writer {p : Pipeline} {j n : Nat} {o o' : Outlet} : p.outlet? j = some o →
      o.step (.writer n) = some o' → ¬ o'.pool.writers.length < o.pool.writers.length →
      Moves w (.writer j n) p (p.setOutlet j o')
  /-- A writer is done. -/
  | done {p q : Pipeline} {i j n : Nat} {o o' : Outlet} : p.outlet? j = some o →
      o.step (.writer n) = some o' → o'.pool.writers.length < o.pool.writers.length →
      o.authors[n]? = some i →
      (p.setOutlet j { o' with authors := o.authors.eraseIdx n }).stepCopier w i (.written true) =
        some q → Moves w (.writer j n) p q
  | worker {p q : Pipeline} {j k : Nat} {e : Worker.Event} :
      p.stepPool j (.worker k e) = some q → Moves w (.worker j k e) p q
  | coordinator {p q : Pipeline} {j : Nat} :
      p.stepPool j .coordinator = some q → Moves w (.coordinator j) p q

theorem moves_of_step {w : Wiring} {e : Event} {p q : Pipeline} (h : p.step w e = some q) :
    Moves w e p q := by
  cases e with
  | receive i payload =>
    rw [step, Option.ite_none_right_eq_some] at h
    exact .receive h.1 h.2
  | close i =>
    rw [step, Option.ite_none_right_eq_some] at h
    exact .close h.1 h.2
  | read i now =>
    obtain ⟨j, hj, h⟩ := Option.bind_eq_some_iff.1 h
    obtain ⟨o, ho, h⟩ := Option.bind_eq_some_iff.1 h
    split at h
    next => cases h
    next r rest hresponses =>
      obtain ⟨p', hp', h⟩ := Option.bind_eq_some_iff.1 h
      exact .read hj ho hresponses hp' h
  | hand i => exact .hand h
  | write i =>
    obtain ⟨⟨payload, j⟩, hwriting, h⟩ := Option.bind_eq_some_iff.1 h
    obtain ⟨o, ho, h⟩ := Option.bind_eq_some_iff.1 h
    split at h
    next hrequest =>
      rw [Option.ite_none_left_eq_some] at h
      obtain ⟨hauthor, h⟩ := h
      obtain ⟨o', ho', h⟩ := Option.map_eq_some_iff.1 h
      cases h
      exact .accept hwriting ho hrequest hauthor ho'
    next hno =>
      obtain ⟨p', hp', h⟩ := Option.bind_eq_some_iff.1 h
      exact .pass hwriting ho (Bool.eq_false_iff.2 hno) hp' h
  | written i success =>
    obtain ⟨⟨payload, j⟩, hwriting, h⟩ := Option.bind_eq_some_iff.1 h
    rw [Option.ite_none_right_eq_some] at h
    exact .written hwriting (Option.isNone_iff_eq_none.1 h.1) h.2
  | writer j n =>
    obtain ⟨o, ho, h⟩ := Option.bind_eq_some_iff.1 h
    obtain ⟨o', ho', h⟩ := Option.bind_eq_some_iff.1 h
    split at h
    next hless =>
      obtain ⟨i, hi, h⟩ := Option.bind_eq_some_iff.1 h
      exact .done ho ho' hless hi h
    next hmore =>
      cases h
      exact .writer ho ho' hmore
  | worker j k e => exact .worker h
  | coordinator j => exact .coordinator h

theorem step_of_moves {w : Wiring} {e : Event} {p q : Pipeline} (h : Moves w e p q) :
    p.step w e = some q := by
  cases h with
  | receive horigin hstep | close horigin hstep => rw [step, if_pos horigin, hstep]
  | read horigin ho hresponses hp' hstep =>
    simp only [step, read, horigin, ho, Option.bind_some, hresponses, hp', hstep]
  | hand hstep | worker hstep | coordinator hstep => rw [step, hstep]
  | accept hwriting ho hrequest hauthor ho' =>
    simp only [step, write, hwriting, ho, Option.bind_some, if_pos hrequest, if_neg hauthor, ho',
      Option.map_some]
  | pass hwriting ho hno hp' hstep =>
    simp only [step, write, hwriting, ho, Option.bind_some, hno, Bool.false_eq_true, if_false, hp',
      hstep]
  | written hwriting hnone hstep =>
    simp only [step, finish, hwriting, Option.bind_some, hnone, Option.isNone_none, if_true, hstep]
  | writer ho ho' hmore =>
    simp only [step, stepWriter, ho, Option.bind_some, ho', if_neg hmore]
  | done ho ho' hless hi hstep =>
    simp only [step, stepWriter, ho, Option.bind_some, ho', if_pos hless, hi, hstep]

/-- **A pipeline has these steps and no others.** -/
theorem moves_iff {w : Wiring} {e : Event} {p q : Pipeline} :
    p.step w e = some q ↔ Moves w e p q := ⟨moves_of_step, step_of_moves⟩

/-! ## Runs -/

/-- All steps of a list of events, while they can happen. -/
def run (w : Wiring) (p : Pipeline) : List Event → Option Pipeline
  | [] => some p
  | e :: events => (p.step w e).bind fun q => q.run w events

/-- A pool that goes on: it is open, is held and was not told to stop. -/
structure Outlet.Runs (o : Outlet) : Prop where
  reachable : Pool.Reachable o.settings o.target o.pool
  isOpen : o.pool.isOpen = true
  held : o.pool.shared.held = true
  stopped : o.pool.shared.stopped = false

/-- A pool that nobody has written to yet. Its workers may have begun to work. -/
structure Outlet.Ready (o : Outlet) : Prop extends o.Runs where
  queue : o.pool.shared.queue = []
  writers : o.pool.writers = []
  authors : o.authors = []

/-- What an emitter starts with: its copiers read, and there is a pool for each output that
replays. -/
structure Starts (w : Wiring) (p : Pipeline) : Prop where
  emitter : p.emitter = Emitter.initial w.plugins.inputs.length
  outlets : ∀ j, (p.outlet? j).map Outlet.output = w.plugins.outputs[j]?.filter (· ≠ .stdout)
  ready : ∀ j o, p.outlet? j = some o → o.Ready

/-- Whether a pipeline can come about before anything is told to stop. -/
inductive Reachable (w : Wiring) : Pipeline → Prop
  | start {p : Pipeline} : Starts w p → Reachable w p
  | step {p q : Pipeline} {e : Event} : Reachable w p → p.step w e = some q → Reachable w q

theorem Reachable.run {w : Wiring} {p q : Pipeline} {events : List Event} (h : Reachable w p)
    (hrun : p.run w events = some q) : Reachable w q := by
  induction events generalizing p with
  | nil =>
    cases hrun
    exact h
  | cons e events ih =>
    obtain ⟨p', hp', hrest⟩ := Option.bind_eq_some_iff.1 hrun
    exact ih (h.step hp') hrest

end Pipeline
end HttpReplay
