import HttpReplay.Bytes

/-!
The emitter takes the payloads of its inputs to its outputs.

Each input has a copier of its own, which reads a payload, writes it to the outputs that it is meant
for, one after the other, and reads again. The copiers are a machine (`Emitter.step`): what an input
yields and how a write ends come from outside, in any order. A copier looks for the signal to stop
before it reads and before each write.
-/

set_option autoImplicit false

namespace HttpReplay

namespace Emitter

/-- How payloads are handed out. -/
structure Settings where
  outputs : Nat
  /-- Whether each payload goes to one output in turn, and not to all of them. -/
  split : Bool
  deriving DecidableEq, Repr

/-- What a copier is doing. -/
inductive Phase where
  /-- It waits for its input. -/
  | reading
  /-- It has a payload for some outputs yet. -/
  | holding (payload : Bytes) (outputs : List Nat)
  /-- It writes a payload, which is for some more outputs afterwards. -/
  | writing (payload : Bytes) (output : Nat) (more : List Nat)
  /-- It has ended. -/
  | ended
  deriving DecidableEq, Repr

structure Copier where
  phase : Phase
  /-- The output that is next in turn. -/
  turn : Nat
  deriving DecidableEq, Repr

/-- What happened, as far as inputs and outputs can tell. -/
inductive Entry where
  | received (input : Nat) (payload : Bytes)
  | handed (input output : Nat) (payload : Bytes)
  /-- An output was done with a payload, successfully or not. -/
  | written (input output : Nat) (success : Bool)
  deriving DecidableEq, Repr

/-- What may happen to a copier. -/
inductive Event where
  /-- Its input yields a payload. -/
  | receive (payload : Bytes)
  /-- Its input ends. -/
  | close
  /-- It begins to write. -/
  | hand
  /-- Its write ends, successfully or not. -/
  | written (success : Bool)
  /-- Its write breaks it. -/
  | crash
  /-- It finds that it has to stop. -/
  | stop
  deriving DecidableEq, Repr

end Emitter

structure Emitter where
  /-- The copier of each input. -/
  copiers : List Emitter.Copier
  /-- Whether everything has been told to stop. -/
  stopped : Bool
  /-- What has happened, the latest first. -/
  log : List Emitter.Entry
  deriving DecidableEq, Repr

namespace Emitter

/-- A new emitter for so many inputs. -/
def initial (inputs : Nat) : Emitter :=
  { copiers := List.replicate inputs ⟨.reading, 0⟩, stopped := false, log := [] }

namespace Settings

/-- The outputs that the next payload is for. -/
def targets (s : Settings) (turn : Nat) : List Nat :=
  if s.outputs = 0 then []
  else if s.split then [turn]
  else List.range s.outputs

/-- The output that is in turn after that. -/
def nextTurn (s : Settings) (turn : Nat) : Nat :=
  if s.outputs = 0 then turn
  else if s.split then (turn + 1) % s.outputs
  else turn

end Settings

/-- What a copier does that has a payload for some outputs yet. -/
def phaseFor (payload : Bytes) (outputs : List Nat) : Phase :=
  if outputs.isEmpty then .reading else .holding payload outputs

/-- A step of a copier, and what it makes known. -/
def Copier.step (s : Settings) (stopped : Bool) (input : Nat) (c : Copier) :
    Event → Option (Copier × Option Entry)
  | .receive payload =>
    match c.phase with
    | .reading =>
      some (⟨phaseFor payload (s.targets c.turn), s.nextTurn c.turn⟩,
        some (.received input payload))
    | _ => none
  | .close =>
    match c.phase with
    | .reading => some ({ c with phase := .ended }, none)
    | _ => none
  | .hand =>
    match c.phase with
    | .holding payload (output :: more) =>
      some ({ c with phase := .writing payload output more }, some (.handed input output payload))
    | _ => none
  | .written success =>
    match c.phase with
    | .writing payload output more =>
      some ({ c with phase := phaseFor payload more }, some (.written input output success))
    | _ => none
  | .crash =>
    match c.phase with
    | .writing _ _ _ => some ({ c with phase := .ended }, none)
    | _ => none
  | .stop =>
    if stopped ∧ c.phase ≠ .ended then some ({ c with phase := .ended }, none) else none

/-- **One step of the copier of input `i`.** There is none where the event cannot happen. -/
def step (s : Settings) (e : Emitter) (i : Nat) (event : Event) : Option Emitter :=
  match e.copiers[i]? with
  | none => none
  | some c => (c.step s e.stopped i event).map fun (c, entry) =>
    { e with copiers := e.copiers.set i c, log := entry.toList ++ e.log }

/-- The emitter, told to stop. -/
def stop (e : Emitter) : Emitter := { e with stopped := true }

def isFinished (e : Emitter) : Bool := e.copiers.all fun c => c.phase == .ended

end Emitter
end HttpReplay
