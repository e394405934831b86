import HttpReplay.Text.Blank
import HttpReplay.Text.Quoted

/-!
The plugins that a configuration can name.

A plugin is named in any letter case and with white space around its name, and it is only found in
the role that it has: the name of an output means nothing among the inputs.
-/

set_option autoImplicit false

namespace HttpReplay

/-- On which side of the emitter a plugin is. -/
inductive Role where
  | input
  | output
  deriving DecidableEq, Repr

namespace Role

def name : Role → String
  | input => "input"
  | output => "output"

/-- The name of a role by itself. -/
def title : Role → String
  | input => "Input"
  | output => "Output"

end Role

inductive PluginKind where
  /-- Makes up requests. -/
  | dummy
  /-- Prints payloads. -/
  | stdout
  /-- Replays requests. -/
  | http
  deriving DecidableEq, Repr

namespace PluginKind

def all : List PluginKind := [dummy, stdout, http]

def name : PluginKind → String
  | dummy => "dummy"
  | stdout => "stdout"
  | http => "http"

def role : PluginKind → Role
  | dummy => .input
  | stdout | http => .output

def needsAddress : PluginKind → Bool
  | http => true
  | dummy | stdout => false

/-- **The plugin of a role that a text names.** -/
def find? (role : Role) (text : String) : Option PluginKind :=
  all.find? fun kind => kind.role == role && Text.sameLetters kind.name (Text.trim text)

/-- What is known of a plugin, in one line. -/
def description (k : PluginKind) : String :=
  "Factory \x7b kind: \"" ++ k.name ++ "\", role: " ++ k.role.title ++ ", needs_address: " ++
    toString k.needsAddress ++ " \x7d"

end PluginKind
end HttpReplay
