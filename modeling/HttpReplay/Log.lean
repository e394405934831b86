import HttpReplay.Text.Blank

/-!
Log levels.

A level lets through what is at least as severe as itself. Levels are named in any letter case.
-/

set_option autoImplicit false

namespace HttpReplay.Log

inductive Level where
  | trace
  | debug
  | info
  | warn
  | error
  deriving DecidableEq, Repr

namespace Level

/-- All levels, the most talkative first. -/
def all : List Level := [trace, debug, info, warn, error]

def name : Level → String
  | trace => "trace"
  | debug => "debug"
  | info => "info"
  | warn => "warn"
  | error => "error"

def ofName? (text : String) : Option Level := all.find? fun level => level.name == Text.lower text

def severity : Level → Nat
  | trace => 0
  | debug => 1
  | info => 2
  | warn => 3
  | error => 4

/-- Whether messages of the level `message` are logged. -/
def admits (level message : Level) : Bool := level.severity ≤ message.severity

end Level

/-- The rule for what this program logs at a level. -/
def directive (level : String) : String := "traffic_replay=" ++ level

end HttpReplay.Log
