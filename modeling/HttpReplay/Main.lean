import HttpReplay.CommandLine
import HttpReplay.Emitter.Basic
import HttpReplay.Payload.Stream
import HttpReplay.Plugin.Assembly
import HttpReplay.Simulation.PoolTrial
import Std.Async.Signal
import Std.Time.DateTime.Timestamp

/-!
The program.

What is decided is decided by the library; here files are read, time passes, and lines are printed.
The executable opens no sockets: to an output that replays, every server is unreachable, and what
it tracks of a request is the response that says so.
-/

set_option autoImplicit false

namespace HttpReplay.Program

/-! ## The world -/

def now : IO Moment := do
  return .ofNanoseconds (← Std.Time.Timestamp.now).toNanosecondsSinceUnixEpoch.val

/-- A number for a new id. -/
def freshNumber : IO Nat := do
  return (← IO.getRandomBytes 16).toList.foldl (fun n b => n * 256 + b.toNat) 0

/-- The contents of a file, if it can be read. -/
def contents (path : String) : IO (Option Bytes) := do
  try return some (← IO.FS.readBinFile path).toList
  catch _ => return none

/-- Prints a message, if the configuration lets it through. -/
def log (c : Config) (message : String) : IO Unit := do
  if c.logs .info then
    IO.println ((← now).isoText ++ "  INFO traffic_replay: " ++ message)
    (← IO.getStdout).flush

def print (payload : Bytes) : IO Unit := do
  let out ← IO.getStdout
  out.write (ByteArray.mk (Payload.frame [payload]).toArray)
  out.flush

/-- The signals that end the program, as tasks that are finished once one has come. -/
def signals : IO (List (Std.Async.AsyncTask Int)) :=
  [Std.Async.Signal.sigterm, .sigint].mapM fun signal => do
    (← Std.Async.Signal.Waiter.mk signal false).wait

/-! ## The pipeline -/

/-- A running pipeline: its plugins, and for each input the output that is next in turn. -/
structure Pipeline where
  config : Config
  plugins : Plugins
  turns : List Nat

/-- The response to a request that is replayed where no server can be reached. -/
def unreachable (target : Target) (settings : Pool.Settings) (payload : Bytes) :
    IO (Option Bytes) := do
  let nowhere : Simulation.Network := ⟨false, false, [], [], #[], 0, ← now⟩
  let trial := Simulation.PoolTrial.start { settings with workers := 1 } target nowhere
  match (trial.run [.write [payload], .settle, .read]).2.getLast? with
  | some (.payload response) => return response
  | _ => return none

/-- Hands a payload to an output, and gives what the output yields as an input. -/
def hand (payload : Bytes) : Output → IO (Option (Input × Bytes))
  | .stdout => do
    print payload
    return none
  | output@(.replay target settings) => do
    let response ← unreachable target settings payload
    return do return (← output.asInput?, ← response)

/-- Takes a payload of an input to its outputs, and then what they yield to theirs. What outputs
yield is no request, so nothing comes of it in turn. -/
partial def take (p : Pipeline) (input : Nat) (payload : Bytes) : IO Pipeline := do
  let settings : Emitter.Settings := ⟨p.plugins.outputs.length, p.config.splitOutput⟩
  let turn := p.turns.getD input 0
  let mut p := { p with turns := p.turns.set input (settings.nextTurn turn) }
  for output in (settings.targets turn).filterMap (p.plugins.outputs[·]?) do
    if let some (source, response) ← hand payload output then
      p ← take p (p.plugins.inputs.idxOf source) response
  return p

/-- Lets every input that makes up payloads yield one. -/
def round (p : Pipeline) : IO Pipeline := do
  let mut p := p
  for (input, i) in p.plugins.inputs.zipIdx do
    if let .dummy _ := input then
      p ← take p i (Payload.ofRequest (← freshNumber) (← now) DummyInput.request)
  return p

/-- Waits for some milliseconds, unless a signal comes before. -/
partial def pause (signals : List (Std.Async.AsyncTask Int)) (millis : Nat) : IO Bool := do
  for signal in signals do
    if ← IO.hasFinished signal then return false
  if millis = 0 then return true
  IO.sleep (min millis 20).toUInt32
  pause signals (millis - 20)

/-- Runs until a signal comes. -/
partial def runUntil (signals : List (Std.Async.AsyncTask Int)) (p : Pipeline) : IO Unit := do
  if ← pause signals (max p.config.dummyMillis 1) then runUntil signals (← round p)

/-- Runs the pipeline of a configuration. -/
def run (c : Config) : IO UInt32 := do
  match Plugins.ofConfig c with
  | .error e =>
    IO.eprintln ("Error: " ++ e.message)
    return e.status.toUInt32
  | .ok plugins =>
    runUntil (← signals) ⟨c, plugins, plugins.inputs.map fun _ => 0⟩
    log c "Shutting down"
    log c "Shutdown complete"
    return 0

def start (arguments : List String) : IO UInt32 := do
  match CommandLine.parse arguments with
  | .error .help =>
    IO.print CommandLine.helpText
    return 0
  | .error (.misuse argument) =>
    IO.eprintln ("error: unexpected argument '" ++ argument ++ "' found")
    return (CommandLine.Stop.misuse argument).status.toUInt32
  | .ok options =>
    match options.configuration (← contents options.path) with
    | .error e =>
      IO.eprintln ("Error: " ++ e.name ++ "(" ++ e.details ++ ")")
      return 1
    | .ok c =>
      if options.checkOnly then
        log c ("Configuration is valid config=" ++ options.path)
        return 0
      else run c

end HttpReplay.Program

def main (arguments : List String) : IO UInt32 := HttpReplay.Program.start arguments
