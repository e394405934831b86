import HttpReplay.Emitter.Basic
import HttpReplay.Payload.Generated

/-!
An emitter whose inputs are fed by hand, taken through a list of steps.

Each input is a queue of limited length, and each output does what its kind says. Every change of
the emitter is a step of its machine. Copiers get their turn after each step, and when a queue is
full.
-/

set_option autoImplicit false

namespace HttpReplay.Simulation

inductive OutputKind where
  | ok
  | fail
  /-- Never comes back. -/
  | hang
  /-- Breaks whoever hands it something. -/
  | panic
  deriving DecidableEq, Repr

structure HandInput where
  /-- The payloads that wait, the oldest first. -/
  queue : List Bytes
  fed : Bool
  deriving DecidableEq, Repr

/-- How many payloads wait in an input at most. -/
def handInputCapacity : Nat := 100

structure EmitterTrial where
  settings : Emitter.Settings
  outputs : List OutputKind
  emitter : Emitter
  inputs : List HandInput
  today : Moment
  generated : Nat

namespace EmitterTrial

/-- A trial of a new emitter. -/
def start (inputs : Nat) (outputs : List OutputKind) (split : Bool) (today : Moment) :
    EmitterTrial where
  settings := ⟨outputs.length, split⟩
  outputs := outputs
  emitter := Emitter.initial inputs
  inputs := List.replicate inputs ⟨[], true⟩
  today := today
  generated := 0

/-- One step of the copier of input `i`. -/
def apply (i : Nat) (event : Emitter.Event) (t : EmitterTrial) : EmitterTrial :=
  match t.emitter.step t.settings i event with
  | some emitter => { t with emitter }
  | none => t

/-- Changes input `i`. -/
def setInput (i : Nat) (input : HandInput) (t : EmitterTrial) : EmitterTrial :=
  { t with inputs := t.inputs.set i input }

/-- What the copier of input `i` can do, if it need not wait. -/
def event? (i : Nat) (t : EmitterTrial) : Option Emitter.Event :=
  match t.emitter.copiers[i]?, t.inputs[i]? with
  | some c, some input =>
    if c.phase = .ended then none
    else if t.emitter.stopped then some .stop
    else match c.phase with
      | .reading =>
        match input.queue with
        | payload :: _ => some (.receive payload)
        | [] => if input.fed then none else some .close
      | .holding _ _ => some .hand
      | .writing _ output _ =>
        match t.outputs[output]? with
        | some .ok => some (.written true)
        | some .fail => some (.written false)
        | some .panic => some .crash
        | some .hang | none => none
      | .ended => none
  | _, _ => none

/-- Runs the copier of input `i` until it has to wait. -/
def runCopier : Nat → Nat → EmitterTrial → EmitterTrial
  | 0, _, t => t
  | fuel + 1, i, t =>
    match t.event? i with
    | none => t
    | some event =>
      let t := t.apply i event
      let t := match event, t.inputs[i]? with
        | .receive _, some input => t.setInput i { input with queue := input.queue.tail }
        | _, _ => t
      runCopier fuel i t

/-- Runs all copiers until they have to wait. -/
def runAll (t : EmitterTrial) : EmitterTrial :=
  (List.range t.inputs.length).foldl (fun t i => t.runCopier 1000000 i) t

/-- Whether somebody still reads input `i`. -/
def isRead (i : Nat) (t : EmitterTrial) : Bool :=
  t.emitter.copiers[i]?.any fun c => c.phase != .ended

/-- What feeding an input comes to. -/
inductive Fed where
  | taken
  | gone
  /-- The input has no room, and nobody makes any. -/
  | blocked
  deriving DecidableEq, Repr

/-- Feeds input `i` if it has room. -/
def feedNow? (i : Nat) (payload : Bytes) (t : EmitterTrial) : Option (EmitterTrial × Fed) :=
  match t.inputs[i]? with
  | none => some (t, .gone)
  | some input =>
    if !input.fed || !t.isRead i then some (t, .gone)
    else if input.queue.length < handInputCapacity then
      some (t.setInput i { input with queue := input.queue ++ [payload] }, .taken)
    else none

/-- Feeds input `i`, letting the copiers make room if there is none. -/
def feed (i : Nat) (payload : Bytes) (t : EmitterTrial) : EmitterTrial × Fed :=
  match t.feedNow? i payload with
  | some result => result
  | none =>
    let t := t.runAll
    (t.feedNow? i payload).getD (t, .blocked)

/-- Feeds input `i` with payloads, one after the other. -/
def feedAll (i : Nat) : List Bytes → EmitterTrial → EmitterTrial × List Fed
  | [], t => (t, [])
  | payload :: rest, t =>
    let (t, fed) := t.feed i payload
    let (t, more) := feedAll i rest t
    (t, fed :: more)

/-- Feeds input `i` with numbered payloads until it is full, at most `most` of them. Returns how
many it took, counted from `n` on. -/
def fill (i : Nat) : Nat → Nat → EmitterTrial → EmitterTrial × Nat
  | 0, n, t => (t, n)
  | most + 1, n, t =>
    let payload := Bytes.ofText "1 n" ++ Numeral.ofNat n ++ Bytes.ofText " 1\nx"
    match t.feed i payload with
    | (t, .taken) => fill i most (n + 1) t
    | (t, _) => (t, n)

/-! ## Steps -/

inductive Step where
  /-- Feeds an input with payloads. -/
  | emit (input : Nat) (payloads : List Bytes)
  /-- Feeds an input with as many payloads as it takes. -/
  | fill (input : Nat)
  /-- Feeds an input with a request, as a payload that is made up for it. -/
  | request (input : Nat) (request : Bytes)
  /-- Lets go of an input. -/
  | close (input : Nat)
  /-- Tells everything to stop. -/
  | shutdown
  /-- Lets everything run. -/
  | settle
  deriving DecidableEq, Repr

/-- What a step comes to. -/
inductive Answer where
  /-- What each payload came to. -/
  | fed (results : List Fed)
  /-- How many payloads were taken. -/
  | filled (count : Nat)
  /-- What one payload came to. -/
  | one (result : Fed)
  /-- Nothing. -/
  | nothing
  deriving DecidableEq, Repr

/-- The most payloads that an input is filled with. -/
def mostFilled : Nat := 1000

/-- One step, before the copiers get their turn. -/
def act (t : EmitterTrial) : Step → EmitterTrial × Answer
  | .emit i payloads => let (t, results) := t.feedAll i payloads; (t, .fed results)
  | .fill i => let (t, count) := t.fill i mostFilled 0; (t, .filled count)
  | .request i request =>
    let payload := Payload.ofRequest t.generated t.today request
    let (t, result) := { t with generated := t.generated + 1 }.feed i payload
    (t, .one result)
  | .close i =>
    match t.inputs[i]? with
    | some input => (t.setInput i { input with fed := false }, .nothing)
    | none => (t, .nothing)
  | .shutdown => ({ t with emitter := t.emitter.stop }, .nothing)
  | .settle => (t, .nothing)

/-- What is seen after a step. -/
structure Report where
  /-- What the step came to. -/
  answer : Answer
  /-- What the outputs were handed since the last step. -/
  delivered : List (Nat × Bytes)
  /-- Whether the emitter is still running. -/
  running : Bool
  deriving DecidableEq, Repr

/-- What the outputs were handed, according to the latest `n` entries of the log. -/
def delivered (n : Nat) (t : EmitterTrial) : List (Nat × Bytes) :=
  (t.emitter.log.take n).reverse.filterMap fun
    | .handed _ output payload => some (output, payload)
    | _ => none

def step (t : EmitterTrial) (s : Step) : EmitterTrial × Report :=
  let before := t.emitter.log.length
  let (t, answer) := t.act s
  let t := t.runAll
  (t, ⟨answer, t.delivered (t.emitter.log.length - before), !t.emitter.isFinished⟩)

def run (t : EmitterTrial) : List Step → EmitterTrial × List Report
  | [] => (t, [])
  | s :: rest =>
    let (t, report) := t.step s
    let (t, reports) := t.run rest
    (t, report :: reports)

/-- How many payloads were read from the inputs. -/
def received (t : EmitterTrial) : Nat :=
  (t.emitter.log.filter fun
    | .received _ _ => true
    | _ => false).length

end EmitterTrial
end HttpReplay.Simulation
