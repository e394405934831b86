import HttpReplay.Config.Basic
import HttpReplay.Toml.Document

/-!
Reading a configuration from a TOML document.

A part of a configuration is a record of settings, and a record can be written as a table, by the
names of its settings, or as an array, by their order. What is missing takes its default; what has
the wrong type is an error; names that are not known are passed over.
-/

set_option autoImplicit false

namespace HttpReplay

namespace Config

inductive Record where
  | named (entries : Toml.Entries)
  | ordered (values : List Toml.Value)

namespace Record

/-- The record that a value can be read as. A date is a record without any known name. -/
def ofValue? : Toml.Value → Option Record
  | .table _ entries => some (named entries)
  | .tables items => some (ordered (items.map (.table .header)))
  | .array values => some (ordered values)
  | .dateTime _ => some (named [])
  | _ => none

/-- The value of a setting, given its place in order and its name. -/
def get? (r : Record) (place : Nat) (name : String) : Option Toml.Value :=
  match r with
  | named entries => entries.get? name
  | ordered values => values[place]?

def setting {α : Type} (r : Record) (place : Nat) (name : String) (default : α)
    (read : Toml.Value → Option α) : Option α :=
  match r.get? place name with
  | some value => read value
  | none => some default

end Record

/-! ## Types of settings -/

def readText : Toml.Value → Option String
  | .string text => some text
  | _ => none

def readFlag : Toml.Value → Option Bool
  | .boolean b => some b
  | _ => none

/-- A number that is not negative. -/
def readCount : Toml.Value → Option Nat
  | .integer n => if 0 ≤ n then some n.toNat else none
  | _ => none

/-- A list, written as an array or as the tables of headers. -/
def readList {α : Type} (read : Toml.Value → Option α) : Toml.Value → Option (List α)
  | .array values => values.mapM read
  | .tables items => (items.map (.table .header)).mapM read
  | _ => none

/-! ## Records -/

/-- An input or output. It has to say what it is. -/
def readEntry (value : Toml.Value) : Option PluginEntry := do
  let r ← Record.ofValue? value
  let kind ← r.get? 0 "kind"
  return { kind := ← readText kind, address := ← r.setting 1 "address" "" readText }

/-- How payloads are handed out. -/
def readEmitter (value : Toml.Value) : Option Bool := do
  let r ← Record.ofValue? value
  r.setting 0 "split_output" false readFlag

/-- How the outputs that replay work. -/
def readReplay (value : Toml.Value) : Option Pool.Settings := do
  let r ← Record.ofValue? value
  let d : Pool.Settings := {}
  return {
    redirectLimit := ← r.setting 0 "redirect_limit" d.redirectLimit readCount
    debug := ← r.setting 1 "debug" d.debug readFlag
    originalHost := ← r.setting 2 "original_host" d.originalHost readFlag
    connectTimeoutMillis := ← r.setting 3 "connect_timeout_ms" d.connectTimeoutMillis readCount
    timeoutMillis := ← r.setting 4 "timeout_ms" d.timeoutMillis readCount
    responseBufferSize := ← r.setting 5 "response_buffer_size" d.responseBufferSize readCount
    workers := ← r.setting 6 "workers" d.workers readCount
    idleWorkers := ← r.setting 7 "idle_workers" d.idleWorkers readCount
    recycle := ← r.setting 8 "recycle" d.recycle readCount
    trackResponses := ← r.setting 9 "track_responses" d.trackResponses readFlag
    queueCapacity := ← r.setting 10 "queue_capacity" d.queueCapacity readCount
    responseCapacity := ← r.setting 11 "response_capacity" d.responseCapacity readCount
    stats := ← r.setting 12 "stats" d.stats readFlag
    analytics := ← r.setting 13 "analytics" d.analytics readFlag }

/-- How often payloads are made up. -/
def readDummy (value : Toml.Value) : Option Nat := do
  let r ← Record.ofValue? value
  let d : Config := {}
  r.setting 0 "interval_ms" d.dummyMillis readCount

def readObservability (value : Toml.Value) : Option Observability := do
  let r ← Record.ofValue? value
  let d : Observability := {}
  return {
    logLevel := ← r.setting 0 "log_level" d.logLevel readText
    metricsEnabled := ← r.setting 1 "metrics_enabled" d.metricsEnabled readFlag
    metricsAddress := ← r.setting 2 "metrics_address" d.metricsAddress readText }

def ofDocument? (entries : Toml.Entries) : Option Config := do
  let r := Record.named entries
  let d : Config := {}
  return {
    splitOutput := ← r.setting 0 "emitter" d.splitOutput readEmitter
    inputs := ← r.setting 1 "inputs" d.inputs (readList readEntry)
    outputs := ← r.setting 2 "outputs" d.outputs (readList readEntry)
    replay := ← r.setting 3 "http_output" d.replay readReplay
    dummyMillis := ← r.setting 4 "dummy_input" d.dummyMillis readDummy
    observability := ← r.setting 5 "observability" d.observability readObservability }

end Config
end HttpReplay
