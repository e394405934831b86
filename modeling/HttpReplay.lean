import HttpReplay.Bytes
import HttpReplay.Client.Basic
import HttpReplay.Client.Failure
import HttpReplay.Client.Reading
import HttpReplay.Client.Settings
import HttpReplay.Client.Synthetic
import HttpReplay.Client.Task
import HttpReplay.CommandLine
import HttpReplay.Config.Basic
import HttpReplay.Config.Loading
import HttpReplay.Config.Reading
import HttpReplay.Config.Validation
import HttpReplay.Emitter.Basic
import HttpReplay.Http.Framing
import HttpReplay.Http.Head
import HttpReplay.Http.Message
import HttpReplay.Log
import HttpReplay.Main
import HttpReplay.Net.ConnectionId
import HttpReplay.Net.DomainName.Ascii
import HttpReplay.Net.DomainName.Punycode
import HttpReplay.Net.Host
import HttpReplay.Net.IpAddress
import HttpReplay.Net.ServerName
import HttpReplay.Payload.Generated
import HttpReplay.Payload.Header
import HttpReplay.Payload.Stream
import HttpReplay.Plugin.Assembly
import HttpReplay.Plugin.DummyInput
import HttpReplay.Plugin.Registry
import HttpReplay.Proofs.Bytes.Cut
import HttpReplay.Proofs.Bytes.Pattern
import HttpReplay.Proofs.Client.Buffering
import HttpReplay.Proofs.Client.Effort
import HttpReplay.Proofs.Client.Exchange
import HttpReplay.Proofs.Client.Interim
import HttpReplay.Proofs.Client.Isolation
import HttpReplay.Proofs.Client.Location
import HttpReplay.Proofs.Client.Reading
import HttpReplay.Proofs.Client.Redirects
import HttpReplay.Proofs.Client.Replies
import HttpReplay.Proofs.Client.RoundTrip
import HttpReplay.Proofs.Client.Session
import HttpReplay.Proofs.Client.Trace
import HttpReplay.Proofs.Client.Wire
import HttpReplay.Proofs.Config.Alarms
import HttpReplay.Proofs.Emitter.Delivery
import HttpReplay.Proofs.Http.Block
import HttpReplay.Proofs.Http.Body
import HttpReplay.Proofs.Http.Chunks
import HttpReplay.Proofs.Http.Completion
import HttpReplay.Proofs.Http.Fields
import HttpReplay.Proofs.Http.Head
import HttpReplay.Proofs.Http.Host
import HttpReplay.Proofs.Http.Layout
import HttpReplay.Proofs.Http.Lines
import HttpReplay.Proofs.Http.Lookup
import HttpReplay.Proofs.Http.Order
import HttpReplay.Proofs.Http.Origin
import HttpReplay.Proofs.Http.Record
import HttpReplay.Proofs.Http.Scan
import HttpReplay.Proofs.Http.Verdict
import HttpReplay.Proofs.Net.Host
import HttpReplay.Proofs.Payload.NormalForm
import HttpReplay.Proofs.Payload.Parts
import HttpReplay.Proofs.Payload.RoundTrip
import HttpReplay.Proofs.Payload.Stream
import HttpReplay.Proofs.Pipeline.Machine
import HttpReplay.Proofs.Pipeline.Progress
import HttpReplay.Proofs.Plugin.Assembly
import HttpReplay.Proofs.Pool.Counters
import HttpReplay.Proofs.Pool.Delivery
import HttpReplay.Proofs.Pool.Floor
import HttpReplay.Proofs.Pool.Growth
import HttpReplay.Proofs.Pool.Idleness
import HttpReplay.Proofs.Pool.Intake
import HttpReplay.Proofs.Pool.Progress
import HttpReplay.Proofs.Pool.Rotation
import HttpReplay.Proofs.Pool.Size
import HttpReplay.Proofs.Pool.Step
import HttpReplay.Proofs.Target.Surroundings
import HttpReplay.Proofs.Target.Url
import HttpReplay.Proofs.Text.Numeral
import HttpReplay.Proofs.Text.Percent
import HttpReplay.Proofs.Text.Utf8
import HttpReplay.Proofs.Unicode.Blank
import HttpReplay.Replay.Counters
import HttpReplay.Replay.Exchange
import HttpReplay.Replay.Metrics
import HttpReplay.Replay.Pool
import HttpReplay.Replay.Settings
import HttpReplay.Replay.Worker
import HttpReplay.Shutdown
import HttpReplay.Simulation.ClientTrial
import HttpReplay.Simulation.DummyTrial
import HttpReplay.Simulation.EmitterTrial
import HttpReplay.Simulation.Network
import HttpReplay.Simulation.Peer
import HttpReplay.Simulation.PoolTrial
import HttpReplay.Simulation.ProgramTrial
import HttpReplay.Simulation.StreamTrial
import HttpReplay.Target.Basic
import HttpReplay.Target.Parse
import HttpReplay.Target.Url
import HttpReplay.Text.Blank
import HttpReplay.Text.Numeral
import HttpReplay.Text.Parts
import HttpReplay.Text.Percent
import HttpReplay.Text.Quoted
import HttpReplay.Text.Reader
import HttpReplay.Text.Utf8
import HttpReplay.Time.Calendar
import HttpReplay.Time.Duration
import HttpReplay.Toml.Blank
import HttpReplay.Toml.DateTime
import HttpReplay.Toml.Document
import HttpReplay.Toml.Number
import HttpReplay.Toml.Quoted
import HttpReplay.Toml.Statement
import HttpReplay.Toml.Value
import HttpReplay.Unicode.Composition
import HttpReplay.Unicode.Direction
import HttpReplay.Unicode.HostName
import HttpReplay.Unicode.Joining
import HttpReplay.Unicode.Marks
import HttpReplay.Unicode.NameTable
import HttpReplay.Unicode.Table
