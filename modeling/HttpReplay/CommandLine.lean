import HttpReplay.Config.Loading

/-!
The command line.

Arguments are taken one after the other, and the first that asks for help or cannot be understood
decides; an option that takes a value takes it from the same argument or from the next one, and no
option may be given twice.
-/

set_option autoImplicit false

namespace HttpReplay

structure Options where
  /-- The configuration file. -/
  path : String
  /-- Whether each payload goes to one output in turn, whatever the configuration says. -/
  splitOutput : Bool
  /-- Whether to look at the configuration and do nothing else. -/
  checkOnly : Bool
  deriving DecidableEq, Repr

namespace CommandLine

/-- Why the program does not start. -/
inductive Stop where
  | help
  /-- An argument cannot be understood, or lacks its value. -/
  | misuse (argument : String)
  deriving DecidableEq, Repr

/-- The arguments that were taken so far. -/
structure Taken where
  path : Option String := none
  splitOutput : Bool := false
  checkOnly : Bool := false

/-- The file that is used where none is given. -/
def defaultPath : String := "traffic-replay.toml"

/-- What the arguments that were taken ask for. -/
def Taken.options (t : Taken) : Options :=
  ⟨t.path.getD defaultPath, t.splitOutput, t.checkOnly⟩

/-- Takes the name of the configuration file. -/
def Taken.takePath (t : Taken) (path : String) : Except Stop Taken :=
  if path.isEmpty || t.path.isSome then .error (.misuse "--config")
  else .ok { t with path := some path }

def isOption (argument : String) : Bool :=
  argument.startsWith "-" && argument != "-"

/-- The value that an argument holds after the name of an option: after an equals sign, which may
be left out after a short name. -/
def attached? (argument : String) : Option String :=
  match argument.toList with
  | '-' :: '-' :: 'c' :: 'o' :: 'n' :: 'f' :: 'i' :: 'g' :: '=' :: value =>
    some (String.ofList value)
  | '-' :: 'c' :: '=' :: value => some (String.ofList value)
  | '-' :: 'c' :: c :: value => some (String.ofList (c :: value))
  | _ => none

def take (t : Taken) : List String → Except Stop Taken
  | [] => .ok t
  | argument :: rest =>
    if argument = "--" then
      match rest with
      | [] => .ok t
      | extra :: _ => .error (.misuse extra)
    else if argument = "--help" || argument.startsWith "-h" then .error .help
    else if argument = "--split-output" && !t.splitOutput then
      take { t with splitOutput := true } rest
    else if argument = "--check" && !t.checkOnly then take { t with checkOnly := true } rest
    else if argument = "--config" || argument = "-c" then
      match rest with
      | [] => .error (.misuse argument)
      | value :: rest =>
        if isOption value then .error (.misuse argument)
        else match t.takePath value with
          | .error e => .error e
          | .ok t => take t rest
    else match attached? argument with
      | some value =>
        match t.takePath value with
        | .error e => .error e
        | .ok t => take t rest
      | none => .error (.misuse argument)

def parse (arguments : List String) : Except Stop Options :=
  (take {} arguments).map Taken.options

/-- What is printed where help is asked for. -/
def helpText : String :=
  "Replay captured HTTP traffic against a target server\n\n" ++
  "Usage: traffic-replay [OPTIONS]\n\n" ++
  "Options:\n" ++
  "  -c, --config <CONFIG>  Path to the TOML configuration file [default: " ++ defaultPath ++
  "]\n" ++
  "      --split-output     Round-robin payloads across outputs instead of broadcasting\n" ++
  "      --check            Validate the configuration and exit\n" ++
  "  -h, --help             Print help\n"

/-- The status with which the program ends where it does not start. -/
def Stop.status : Stop → Nat
  | help => 0
  | misuse _ => 2

end CommandLine

/-- The configuration that the program runs with, given the contents of the file. -/
def Options.configuration (o : Options) (contents : Option Bytes) : Except LoadError Config :=
  (Config.load contents).map fun c => { c with splitOutput := c.splitOutput || o.splitOutput }

namespace Config

def logs (c : Config) (message : Log.Level) : Bool :=
  (Log.Level.ofName? c.observability.logLevel).any (·.admits message)

end Config
end HttpReplay
