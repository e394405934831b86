import HttpReplay.Config.Reading
import HttpReplay.Config.Validation
import HttpReplay.Text.Utf8

/-!
Loading a configuration: from a text, which has to be a TOML document with settings of the right
types and nothing wrong with them, or from the contents of a file, which has to be such a text.
-/

set_option autoImplicit false

namespace HttpReplay

/-- Why there is no configuration. -/
inductive LoadError where
  /-- The file cannot be read as text. -/
  | unreadable
  /-- The text is no TOML document, or a setting has the wrong type. -/
  | malformed
  /-- Something is wrong with the settings. -/
  | invalid (faults : List ConfigFault)
  deriving DecidableEq, Repr

namespace LoadError

/-- The kind of an error, as it is printed. -/
def heading : LoadError → String
  | unreadable => "IO error"
  | malformed => "Parse error"
  | invalid _ => "Validation failed"

/-- The kind of an error, in a word. -/
def name : LoadError → String
  | unreadable => "Io"
  | malformed => "Parse"
  | invalid _ => "Validation"

def details : LoadError → String
  | unreadable => "the file cannot be read as text"
  | malformed => "the settings cannot be read"
  | invalid faults => ", ".intercalate (faults.map (·.message))

/-- What is said about an error. -/
def message (e : LoadError) : String := e.heading ++ ": " ++ e.details

end LoadError

namespace Config

def parse (text : String) : Except LoadError Config :=
  match (Toml.parse? text).bind ofDocument? with
  | none => .error .malformed
  | some c => if c.faults.isEmpty then .ok c else .error (.invalid c.faults)

/-- The configuration in a file of the given contents, if there is a file. -/
def load (contents : Option Bytes) : Except LoadError Config :=
  match contents.bind Utf8.decode? with
  | none => .error .unreadable
  | some text => parse (String.ofList text)

end Config
end HttpReplay
