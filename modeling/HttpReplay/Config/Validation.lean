import HttpReplay.Config.Basic
import HttpReplay.Log
import HttpReplay.Net.IpAddress
import HttpReplay.Plugin.Registry
import HttpReplay.Target.Parse

/-!
What is wrong with a configuration.

All faults are found, not only the first: those of the lists of plugins, those of each entry in
order, inputs before outputs, and those of the other settings. No fault stands for another, so a
configuration without faults is one that each of these questions accepts.
-/

set_option autoImplicit false

namespace HttpReplay

/-- Something wrong with a configuration. -/
inductive ConfigFault where
  | noInputs
  | noOutputs
  /-- An entry names no plugin of its role. -/
  | unknownKind (role : Role) (kind : String)
  /-- An entry lacks the address that its plugin needs. -/
  | noAddress (role : Role) (kind : String)
  /-- The address of an entry names no server to replay to. -/
  | badTarget (address : String) (why : TargetError)
  /-- A channel could hold nothing. -/
  | zeroCapacity (setting : String)
  | badLogLevel (name : String)
  | badMetricsAddress (address : String)
  deriving DecidableEq, Repr

namespace ConfigFault

/-- What is said about a fault. -/
def message : ConfigFault → String
  | noInputs => "no inputs configured"
  | noOutputs => "no outputs configured"
  | unknownKind role kind => "unknown " ++ role.name ++ " kind '" ++ kind ++ "'"
  | noAddress role kind => role.name ++ " '" ++ kind ++ "' requires an address"
  | badTarget address why => "invalid replay target '" ++ address ++ "': " ++ why.message
  | zeroCapacity setting => "http_output." ++ setting ++ " must be greater than zero"
  | badLogLevel name => "invalid log level '" ++ name ++ "'"
  | badMetricsAddress address => "invalid metrics address '" ++ address ++ "'"

end ConfigFault

namespace Config

def need (holds : Bool) (fault : ConfigFault) : List ConfigFault := if holds then [] else [fault]

def entryFaults (role : Role) (entry : PluginEntry) : List ConfigFault :=
  match PluginKind.find? role entry.kind with
  | none => [.unknownKind role entry.kind]
  | some kind =>
    if kind.needsAddress && (Text.trim entry.address).isEmpty then [.noAddress role entry.kind]
    else if kind = .http then
      match Target.parse entry.address with
      | .error why => [.badTarget entry.address why]
      | .ok _ => []
    else []

/-- What is wrong with the settings of the outputs that replay. -/
def replayFaults (s : Pool.Settings) : List ConfigFault :=
  need (s.queueCapacity != 0) (.zeroCapacity "queue_capacity") ++
    need (s.responseCapacity != 0) (.zeroCapacity "response_capacity")

/-- What is wrong with what can be observed. The address does not matter if nobody asks there. -/
def observabilityFaults (o : Observability) : List ConfigFault :=
  need (Log.Level.ofName? o.logLevel).isSome (.badLogLevel o.logLevel) ++
    need (!o.metricsEnabled || (Net.socketAddress? o.metricsAddress).isSome)
      (.badMetricsAddress o.metricsAddress)

/-- **All that is wrong with a configuration.** -/
def faults (c : Config) : List ConfigFault :=
  need (!c.inputs.isEmpty) .noInputs ++ need (!c.outputs.isEmpty) .noOutputs ++
    c.inputs.flatMap (entryFaults .input) ++ c.outputs.flatMap (entryFaults .output) ++
    replayFaults c.replay ++ observabilityFaults c.observability

end Config
end HttpReplay
