import HttpReplay.Replay.Settings
import HttpReplay.Time.Duration

/-!
The configuration of the program.

Every part has a default, so an empty configuration is one; whether it makes sense is for
`Config.faults` to say, not for the type.
-/

set_option autoImplicit false

namespace HttpReplay

/-- A configured input or output. -/
structure PluginEntry where
  kind : String
  /-- What it is connected to, for plugins that are connected to something. -/
  address : String := ""
  deriving DecidableEq, Repr

/-- What can be observed of the running program. -/
structure Observability where
  /-- The name of the log level. -/
  logLevel : String := "info"
  /-- Whether measurements can be fetched. -/
  metricsEnabled : Bool := false
  /-- Where measurements can be fetched. -/
  metricsAddress : String := "0.0.0.0:9090"
  deriving DecidableEq, Repr

structure Config where
  /-- Whether each payload goes to one output in turn, and not to all of them. -/
  splitOutput : Bool := false
  /-- Where payloads come from. -/
  inputs : List PluginEntry := []
  /-- Where payloads go. -/
  outputs : List PluginEntry := []
  /-- How the outputs that replay work. -/
  replay : Pool.Settings := {}
  /-- The time between two payloads of an input that makes them up, in milliseconds. -/
  dummyMillis : Nat := 1000
  observability : Observability := {}
  deriving DecidableEq, Repr

namespace Config

/-- The time between two payloads of an input that makes them up: at least a millisecond. -/
def dummyInterval (c : Config) : Duration := Duration.ofMillis (max c.dummyMillis 1)

end Config
end HttpReplay
