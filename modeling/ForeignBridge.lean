import ForeignBridge.Atomic
import ForeignBridge.Bindings.Lifecycle
import ForeignBridge.Calendar
import ForeignBridge.Callback.Dispatch
import ForeignBridge.Callback.Interface
import ForeignBridge.Cli.Grammar
import ForeignBridge.Cli.Help
import ForeignBridge.Cli.Program
import ForeignBridge.Cli.Run
import ForeignBridge.Config.Basic
import ForeignBridge.Config.Layers
import ForeignBridge.Config.Section
import ForeignBridge.Config.Setting
import ForeignBridge.Config.Storage
import ForeignBridge.Contract.Manifest
import ForeignBridge.Contract.Verify
import ForeignBridge.Document.Access
import ForeignBridge.Document.Entry
import ForeignBridge.Document.Fault
import ForeignBridge.Document.File
import ForeignBridge.Document.JsonPrinter
import ForeignBridge.Document.JsonReader
import ForeignBridge.Document.Merge
import ForeignBridge.Document.Toml.Entry
import ForeignBridge.Document.Toml.Lines
import ForeignBridge.Document.Toml.Printer
import ForeignBridge.Document.Toml.Reader
import ForeignBridge.Document.Toml.Scalar
import ForeignBridge.Document.Toml.Table
import ForeignBridge.Document.Toml.Text
import ForeignBridge.Document.Unread
import ForeignBridge.Document.Yaml.Cursor
import ForeignBridge.Document.Yaml.Mark
import ForeignBridge.Document.Yaml.Node
import ForeignBridge.Document.Yaml.Printer
import ForeignBridge.Document.Yaml.Reader
import ForeignBridge.Document.Yaml.ScalarText
import ForeignBridge.Document.Yaml.ScalarValue
import ForeignBridge.Document.Yaml.Tag
import ForeignBridge.Document.Yaml.Token
import ForeignBridge.ErrorClass
import ForeignBridge.Exchange.Receive
import ForeignBridge.Exchange.Send
import ForeignBridge.Failure
import ForeignBridge.Files
import ForeignBridge.HandleTable
import ForeignBridge.Log.Entry
import ForeignBridge.Log.Line
import ForeignBridge.Log.Manager
import ForeignBridge.Log.Record
import ForeignBridge.Log.Tree
import ForeignBridge.Main
import ForeignBridge.Memory.Allocator
import ForeignBridge.Memory.Arena
import ForeignBridge.Memory.Received
import ForeignBridge.Native.Envelope
import ForeignBridge.Native.Outcome
import ForeignBridge.Number.Binary
import ForeignBridge.Number.Fixed
import ForeignBridge.Number.Literal
import ForeignBridge.Number.Shortest
import ForeignBridge.Number.Sum
import ForeignBridge.Object.Guard
import ForeignBridge.Object.Lifetime
import ForeignBridge.Scenario.Answer
import ForeignBridge.Scenario.FailureForm
import ForeignBridge.Scenario.LogForm
import ForeignBridge.Scenario.LogSteps
import ForeignBridge.Scenario.NativeForm
import ForeignBridge.Scenario.SettingsForm
import ForeignBridge.Scenario.ShapeForm
import ForeignBridge.Scenario.ValueForm
import ForeignBridge.Scenario.ValueSteps
import ForeignBridge.Text.Alphanumeric
import ForeignBridge.Text.Blank
import ForeignBridge.Text.Hex
import ForeignBridge.Text.Path
import ForeignBridge.Text.Printable
import ForeignBridge.Text.Quoted
import ForeignBridge.Text.Ranges
import ForeignBridge.Text.Split
import ForeignBridge.Text.Surrogate
import ForeignBridge.Text.Template
import ForeignBridge.Text.Utf8
import ForeignBridge.Value.Basic
import ForeignBridge.Value.Equal
import ForeignBridge.Value.Hash
import ForeignBridge.Value.Method
import ForeignBridge.Value.Text
import ForeignBridge.Wire.Check
import ForeignBridge.Wire.Codec
import ForeignBridge.Wire.Layout
import ForeignBridge.Wire.Read
import ForeignBridge.Wire.Reader
import ForeignBridge.Wire.Shape
import ForeignBridge.Wire.Write
import ForeignBridge.World
import ForeignBridge.Proofs.Calendar
import ForeignBridge.Proofs.Calendar.Dates
import ForeignBridge.Proofs.Callback.Arguments
import ForeignBridge.Proofs.Callback.Calls
import ForeignBridge.Proofs.Callback.Escape
import ForeignBridge.Proofs.Callback.Exchange
import ForeignBridge.Proofs.Callback.Isolation
import ForeignBridge.Proofs.Callback.Registration
import ForeignBridge.Proofs.Exchange.Handouts
import ForeignBridge.Proofs.Exchange.Unraised
import ForeignBridge.Proofs.Frame
import ForeignBridge.Proofs.HandleTable
import ForeignBridge.Proofs.Memory.Bridge
import ForeignBridge.Proofs.Memory.Release
import ForeignBridge.Proofs.Memory.Serving
import ForeignBridge.Proofs.Native.Settlement
import ForeignBridge.Proofs.Number.Patterns
import ForeignBridge.Proofs.Number.Single
import ForeignBridge.Proofs.Object.Calls
import ForeignBridge.Proofs.Object.Guard
import ForeignBridge.Proofs.Object.Lifetime
import ForeignBridge.Proofs.Text.Utf8
import ForeignBridge.Proofs.Text.Whole
import ForeignBridge.Proofs.Value.Lookup
import ForeignBridge.Proofs.Value.Names
import ForeignBridge.Proofs.Wire.Canon
import ForeignBridge.Proofs.Wire.Check
import ForeignBridge.Proofs.Wire.Complete
import ForeignBridge.Proofs.Wire.Decode
import ForeignBridge.Proofs.Wire.Exact
import ForeignBridge.Proofs.Wire.Grammar
import ForeignBridge.Proofs.Wire.Held
import ForeignBridge.Proofs.Wire.Layout
import ForeignBridge.Proofs.Wire.Plain
import ForeignBridge.Proofs.Wire.Reader
import ForeignBridge.Proofs.Wire.RoundTrip
import ForeignBridge.Proofs.Wire.Scalar
import ForeignBridge.Proofs.Wire.Script
import ForeignBridge.Proofs.Wire.Sound
import ForeignBridge.Proofs.Wire.Ends
import ForeignBridge.Proofs.Wire.Faults
import ForeignBridge.Proofs.Wire.Limits
import ForeignBridge.Proofs.Wire.Moments
import ForeignBridge.Proofs.Wire.Parts
import ForeignBridge.Proofs.Wire.Readback
import ForeignBridge.Proofs.Wire.Resend
import ForeignBridge.Proofs.Wire.Strict
import ForeignBridge.Proofs.Wire.Validation
import ForeignBridge.Proofs.Wire.Writes
import ForeignBridge.Proofs.Wire.Width
import ForeignBridge.Proofs.Wire.Unraised
import ForeignBridge.Proofs.Wire.Words.Check
import ForeignBridge.Proofs.Wire.Words.Read
import ForeignBridge.Proofs.Wire.Words.Write
import ForeignBridge.Proofs.Bindings.Lifecycle
import ForeignBridge.Proofs.Bindings.Traces
import ForeignBridge.Proofs.Bindings.Restarts
import ForeignBridge.Proofs.Bindings.Closed
import ForeignBridge.Proofs.Bindings.Services
import ForeignBridge.Proofs.Bindings.Leaks
import ForeignBridge.Proofs.Cli.Verification
import ForeignBridge.Proofs.Bindings.Verified
import ForeignBridge.Proofs.Memory.Accounts
import ForeignBridge.Proofs.Callback.Verdict
import ForeignBridge.Proofs.Object.Counted
import ForeignBridge.Proofs.Object.Balance
import ForeignBridge.Proofs.Exchange.Adoption
import ForeignBridge.Proofs.Exchange.Clones
import ForeignBridge.Proofs.Exchange.Conservation
import ForeignBridge.Proofs.Config.Documents
import ForeignBridge.Proofs.Config.Settings
import ForeignBridge.Proofs.Config.Fields
import ForeignBridge.Proofs.Config.Environment
import ForeignBridge.Proofs.Config.CommandLine
import ForeignBridge.Proofs.Wire.Progress
import ForeignBridge.Proofs.Wire.Counts
import ForeignBridge.Proofs.Memory.Frees
import ForeignBridge.Proofs.Calendar.Gregorian
import ForeignBridge.Proofs.Wire.Instants
import ForeignBridge.Proofs.Memory.Received
import ForeignBridge.Proofs.Config.Merging
import ForeignBridge.Proofs.Config.Switches
import ForeignBridge.Proofs.Memory.Lending
import ForeignBridge.Proofs.Native.FaultMessages
import ForeignBridge.Proofs.Wire.Extent
import ForeignBridge.Proofs.Files
import ForeignBridge.Proofs.Log.Members
import ForeignBridge.Proofs.Log.Setup
import ForeignBridge.Proofs.Log.Handlers
import ForeignBridge.Proofs.Document.Settings
import ForeignBridge.Proofs.Cli.Endings
import ForeignBridge.Proofs.Document.Nulls
import ForeignBridge.Proofs.Contract.Manifest
import ForeignBridge.Proofs.Config.Storage
import ForeignBridge.Proofs.Wire.Cursor
import ForeignBridge.Proofs.Log.Ancestry
import ForeignBridge.Proofs.Log.Delivery
