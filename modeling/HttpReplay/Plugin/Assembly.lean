import HttpReplay.Config.Basic
import HttpReplay.Plugin.Registry
import HttpReplay.Plugin.DummyInput
import HttpReplay.Replay.Pool
import HttpReplay.Target.Parse

/-!
From a configuration to the inputs and outputs of the emitter.

An output that replays and keeps the responses is an input too, after those that are configured.
The entries are gone through in order, inputs first, and the first that cannot be built decides
what is said. An entry may also ask for more than a channel can hold, or for an idle floor that is
too large to reckon with, and no check of the configuration looks for either; that is not said but
breaks the program off.
-/

set_option autoImplicit false

namespace HttpReplay

inductive Input where
  /-- Makes up requests. -/
  | dummy (interval : Duration)
  /-- Yields the responses of an output that replays. -/
  | responses (target : Target)
  deriving DecidableEq, Repr

inductive Output where
  | stdout
  | replay (target : Target) (settings : Pool.Settings)
  deriving DecidableEq, Repr

namespace Input

def name : Input → String
  | dummy interval => DummyInput.name interval
  | responses target => Pool.name target

/-- How many tasks of an input would be told to stop. -/
def subscribers : Input → Nat
  | dummy _ => 1
  | responses _ => 0

end Input

namespace Output

def name : Output → String
  | stdout => "Stdout output"
  | replay target _ => Pool.name target

/-- The same output as an input, if it yields payloads. -/
def asInput? : Output → Option Input
  | stdout => none
  | replay target settings => if settings.trackResponses then some (.responses target) else none

/-- How many tasks of an output would be told to stop. -/
def subscribers : Output → Nat
  | stdout => 0
  | replay target settings => (Pool.opened settings target).subscribers

end Output

/-- Why a plugin cannot be built. -/
inductive BuildError where
  /-- No plugin of the role has the name. -/
  | unknownKind (role : Role) (kind : String)
  /-- The address names no server. -/
  | target (why : TargetError)
  /-- More is asked for than a channel can hold or a machine word can count. -/
  | capacity
  deriving DecidableEq, Repr

/-- What is said about a plugin that cannot be built. -/
def BuildError.message : BuildError → String
  | unknownKind role kind => "unknown " ++ role.name ++ " kind '" ++ kind ++ "'"
  | target why => why.message
  | capacity => "too much is asked for"

/-- What a program ends with that cannot build a plugin. Breaking off has a status of its own. -/
def BuildError.status : BuildError → Nat
  | unknownKind .. | target _ => 1
  | capacity => 101

/-- The most that a channel can hold, three bits of a word being spoken for. -/
def channelLimit : Nat := Numeral.maxSize / 8

/-- The inputs and outputs of an emitter. -/
structure Plugins where
  inputs : List Input
  outputs : List Output
  deriving DecidableEq, Repr

namespace Plugins

def none : Plugins := ⟨[], []⟩

def withInput (p : Plugins) (input : Input) : Plugins := { p with inputs := p.inputs ++ [input] }

/-- The plugins with one more output, and its input if it has one. -/
def withOutput (p : Plugins) (output : Output) : Plugins :=
  { inputs := p.inputs ++ output.asInput?.toList, outputs := p.outputs ++ [output] }

def buildInput (c : Config) (entry : PluginEntry) : Except BuildError Input :=
  match PluginKind.find? .input entry.kind with
  | some _ => .ok (.dummy c.dummyInterval)
  | Option.none => .error (.unknownKind .input entry.kind)

/-- The output that replays to an address, white space around it ignored. Its channels are made and
its pool is opened. -/
def buildReplay (c : Config) (arithmetic : Arithmetic) (address : String) :
    Except BuildError Output :=
  match Target.parse (Text.trim address) with
  | .error why => .error (.target why)
  | .ok target =>
    if (c.replay.queueCapacity ≤ channelLimit ∧ c.replay.responseCapacity ≤ channelLimit) ∧
        c.replay.opens arithmetic = true then
      .ok (.replay target c.replay)
    else .error .capacity

def buildOutput (c : Config) (arithmetic : Arithmetic) (entry : PluginEntry) :
    Except BuildError Output :=
  match PluginKind.find? .output entry.kind with
  | some .http => buildReplay c arithmetic entry.address
  | some _ => .ok .stdout
  | Option.none => .error (.unknownKind .output entry.kind)

/-- **The plugins that a configuration asks for.** Products are checked if nothing else is said. -/
def ofConfig (c : Config) (arithmetic : Arithmetic := .checked) : Except BuildError Plugins := do
  let withInputs ← c.inputs.foldlM (fun p entry => do
    return p.withInput (← buildInput c entry)) none
  c.outputs.foldlM (fun p entry => do return p.withOutput (← buildOutput c arithmetic entry))
    withInputs

/-- How many tasks would be told to stop. -/
def subscribers (p : Plugins) : Nat :=
  (p.inputs.map (·.subscribers) ++ p.outputs.map (·.subscribers)).foldr (· + ·) 0

/-- Texts in quotation marks, with commas between. -/
def listText (texts : List String) : String :=
  "[" ++ ", ".intercalate (texts.map Quoted.encode) ++ "]"

/-- The names of the plugins, in one line. -/
def description (p : Plugins) : String :=
  "Plugins \x7b inputs: " ++ listText (p.inputs.map (·.name)) ++ ", outputs: " ++
    listText (p.outputs.map (·.name)) ++ " \x7d"

end Plugins
end HttpReplay
