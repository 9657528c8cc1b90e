import CallBridge.Action
import CallBridge.Backend
import CallBridge.Binding
import CallBridge.CallError
import CallBridge.Callback
import CallBridge.Closure
import CallBridge.Decimal.Shortest
import CallBridge.EntryTable
import CallBridge.Event
import CallBridge.FileTree
import CallBridge.Frame
import CallBridge.HostBackend
import CallBridge.Identity
import CallBridge.Index
import CallBridge.Kind
import CallBridge.Level
import CallBridge.Library
import CallBridge.Logging.Directive
import CallBridge.Logging.Filter
import CallBridge.Logging.Line
import CallBridge.Logging.Subscriber
import CallBridge.Memory
import CallBridge.Pattern
import CallBridge.Pattern.Atom
import CallBridge.Pattern.CharSet
import CallBridge.Pattern.Modes
import CallBridge.Placement
import CallBridge.Process
import CallBridge.Process.Entry
import CallBridge.Process.Gateway
import CallBridge.Process.Logging
import CallBridge.RegistrationError
import CallBridge.Registry
import CallBridge.Reply
import CallBridge.Script.Answer
import CallBridge.Script.Inspect
import CallBridge.Script.Run
import CallBridge.Script.Sample
import CallBridge.Script.Step
import CallBridge.Proofs.SlotRuns
import CallBridge.Proofs.SlotTable
import CallBridge.Script.World
import CallBridge.Settings
import CallBridge.Settings.Document
import CallBridge.Settings.Environment
import CallBridge.Signature
import CallBridge.Text.Alphanumeric
import CallBridge.Text.Blank
import CallBridge.Text.CodePoint
import CallBridge.Text.Cut
import CallBridge.Text.FloatText
import CallBridge.Text.Integer
import CallBridge.Text.Number
import CallBridge.Text.Quoted
import CallBridge.Text.Shown
import CallBridge.Text.Unprintable
import CallBridge.Text.Utf8
import CallBridge.Toml.Library
import CallBridge.Toml.Moment
import CallBridge.Toml.Number
import CallBridge.Toml.Reader
import CallBridge.Toml.Text
import CallBridge.Toml.Value
import CallBridge.Toml.Writer
import CallBridge.Trampoline
import CallBridge.TypeDesc
import CallBridge.Value
import CallBridge.Violation
import CallBridge.Word
import CallBridge.Proofs.Marshaling
import CallBridge.Proofs.Layout
import CallBridge.Proofs.Registrations
import CallBridge.Proofs.SlotMap
import CallBridge.Proofs.ProcessRuns
import CallBridge.Proofs.TypedCalls
import CallBridge.Proofs.HostContract
import CallBridge.Proofs.TwoBackends
import CallBridge.Proofs.BlockLength
import CallBridge.Proofs.EntryPoints
import CallBridge.Proofs.HostRuns
import CallBridge.Proofs.Reentrancy
import CallBridge.Proofs.Failures
import CallBridge.Proofs.SlotOrder
import CallBridge.Proofs.Brackets
import CallBridge.Proofs.EventLog
import CallBridge.Proofs.Validation
import CallBridge.Proofs.BlockEncoding
import CallBridge.Proofs.TypedClosures
import CallBridge.Proofs.Settled
import CallBridge.Proofs.Choices
import CallBridge.Proofs.NativeCalls
import CallBridge.Proofs.Placements
import CallBridge.Proofs.PreparedWords
import CallBridge.Proofs.CallRefusals
import CallBridge.Proofs.IntegerCalls
import CallBridge.Proofs.ResultEncoding
import CallBridge.Proofs.UntypedCalls
import CallBridge.Proofs.LossyText
import CallBridge.Proofs.NativeStrings
import CallBridge.Proofs.FatalCapacity
import CallBridge.Proofs.SavedSettings
import CallBridge.Proofs.SymbolCache
import CallBridge.Proofs.ArgumentConversion
import CallBridge.Proofs.ReleasedCopies
import CallBridge.Proofs.IsolatedCalls
import CallBridge.Proofs.RegisterAllocation
import CallBridge.Proofs.WordConversions
