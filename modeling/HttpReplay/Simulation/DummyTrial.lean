import HttpReplay.Plugin.DummyInput

/-!
A dummy input, read on a clock that only the reading moves. The date stays what it is.
-/

set_option autoImplicit false

namespace HttpReplay.Simulation

/-- A dummy input in the middle of a trial. -/
structure DummyTrial where
  input : DummyInput
  now : Instant
  today : Moment
  stopped : Bool
  generated : Nat

namespace DummyTrial

/-- A trial of a new input. -/
def start (interval : Duration) (today : Moment) : DummyTrial :=
  ⟨DummyInput.create interval 0, 0, today, false, 0⟩

inductive Step where
  /-- Reads a payload. -/
  | read
  /-- Tells the input to stop. -/
  | shutdown
  /-- Lets time pass. -/
  | sleep (d : Duration)
  deriving DecidableEq, Repr

/-- What a step comes to: how long it took, and for a read the payload, if there was one. -/
structure Answer where
  elapsed : Duration
  payload : Option (Option Bytes)
  deriving DecidableEq, Repr

def step (t : DummyTrial) : Step → DummyTrial × Answer
  | .read =>
    if t.stopped then (t, ⟨0, some none⟩)
    else
      let now := t.input.due t.now
      let payload := Payload.ofRequest t.generated t.today DummyInput.request
      ({ t with input := t.input.advance now, now, generated := t.generated + 1 },
        ⟨(now - t.now).toNat, some (some payload)⟩)
  | .shutdown => ({ t with stopped := true }, ⟨0, none⟩)
  | .sleep d => ({ t with now := t.now + d }, ⟨d, none⟩)

def run (t : DummyTrial) : List Step → List Answer
  | [] => []
  | s :: rest =>
    let (t, answer) := t.step s
    answer :: t.run rest

end DummyTrial
end HttpReplay.Simulation
