import HttpReplay.CommandLine
import HttpReplay.Emitter.Basic
import HttpReplay.Plugin.Assembly

/-!
What the program prints, run with inputs that make up payloads and outputs that print them.

All inputs have the same interval, so they yield in rounds; within a round they yield in order, and
each has its own turn among the outputs.
-/

set_option autoImplicit false

namespace HttpReplay.Simulation

namespace ProgramTrial

/-- The outputs that a payload of round `round` is for. -/
def receivers (p : Plugins) (split : Bool) (round : Nat) : List Output :=
  let settings : Emitter.Settings := ⟨p.outputs.length, split⟩
  (settings.targets (round % max p.outputs.length 1)).filterMap (p.outputs[·]?)

def printedIn (p : Plugins) (split : Bool) (round : Nat) : Nat :=
  p.inputs.length * ((receivers p split round).filter (· = .stdout)).length

/-- The payloads that have been printed after some rounds. -/
def printed (p : Plugins) (split : Bool) (now : Moment) (rounds : Nat) : List Bytes :=
  let count := ((List.range rounds).map (printedIn p split)).foldr (· + ·) 0
  (List.range count).map fun n => Payload.ofRequest n now DummyInput.request

/-- The first payloads that are printed. Where anything is printed at all, each output has printed
once in as many rounds as there are outputs. -/
def firstPrinted (p : Plugins) (split : Bool) (now : Moment) (count : Nat) : List Bytes :=
  (printed p split now (count * max p.outputs.length 1)).take count

end ProgramTrial
end HttpReplay.Simulation
