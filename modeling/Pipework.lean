import Pipework.CommandLine
import Pipework.Component.Outcome
import Pipework.Component.SendLines
import Pipework.Component.ShowFrames
import Pipework.ComponentArgs
import Pipework.Duration
import Pipework.ExitError
import Pipework.Files.Fresh
import Pipework.Files.Mode
import Pipework.Files.NamedPipe
import Pipework.Files.Tree
import Pipework.Frame.Basic
import Pipework.Frame.Decode
import Pipework.Frame.Encode
import Pipework.Frame.Error
import Pipework.Frame.FieldName
import Pipework.Frame.Head
import Pipework.Frame.Receiver
import Pipework.Frame.Sender
import Pipework.Graph
import Pipework.Graph.Load
import Pipework.Graph.Read
import Pipework.Graph.Write
import Pipework.IoError
import Pipework.Json.Basic
import Pipework.Json.Double
import Pipework.Json.Read
import Pipework.Json.Write
import Pipework.Main
import Pipework.NameMap
import Pipework.Network.Basic
import Pipework.Network.Error
import Pipework.Network.OfGraph
import Pipework.Path
import Pipework.PipeError
import Pipework.Program
import Pipework.Program.Basic
import Pipework.Report.Dependencies
import Pipework.Report.Display
import Pipework.Report.Dot
import Pipework.Run.Error
import Pipework.Run.Launch
import Pipework.Run.OutputLog
import Pipework.Run.Plan
import Pipework.Run.Tally
import Pipework.Text.Blank
import Pipework.Text.Decimal
import Pipework.Text.Edge
import Pipework.Text.Hidden
import Pipework.Text.Lines
import Pipework.Text.Quoted
import Pipework.Text.Table
import Pipework.Text.Utf8
import Pipework.Text.Width
import Pipework.Text.Width.Emoji
import Pipework.Text.Width.Ranges
import Pipework.Text.Words
import Pipework.Wiring
import Pipework.Rehearsal
import Pipework.Rehearsal.Machine.Basic
import Pipework.Rehearsal.Machine.Builtin
import Pipework.Rehearsal.Machine.Names
import Pipework.Rehearsal.Machine.Program
import Pipework.Rehearsal.Machine.Signal
import Pipework.Rehearsal.Machine.Step
import Pipework.Rehearsal.Machine.Tool
import Pipework.Rehearsal.Script.Arithmetic
import Pipework.Rehearsal.Script.Condition
import Pipework.Rehearsal.Script.Expand
import Pipework.Rehearsal.Script.Filter
import Pipework.Rehearsal.Script.Format
import Pipework.Rehearsal.Script.Options
import Pipework.Rehearsal.Script.Parse
import Pipework.Rehearsal.Script.Pattern
import Pipework.Rehearsal.Script.Regex
import Pipework.Rehearsal.Script.Scope
import Pipework.Rehearsal.Script.Syntax
import Pipework.Rehearsal.Script.Token
import Pipework.Proofs.Arguments
import Pipework.Proofs.Arguments.Extraction
import Pipework.Proofs.Arguments.Pairing
import Pipework.Proofs.Arguments.Survival
import Pipework.Proofs.Duration
import Pipework.Proofs.Except
import Pipework.Proofs.ExitCode
import Pipework.Proofs.Files.Table
import Pipework.Proofs.Files.Tree
import Pipework.Proofs.Files.Ways
import Pipework.Proofs.Frame.Addressing
import Pipework.Proofs.Frame.Agreement
import Pipework.Proofs.Frame.Conservation
import Pipework.Proofs.Frame.EndOfStream
import Pipework.Proofs.Frame.Ending
import Pipework.Proofs.Frame.Extensions
import Pipework.Proofs.Frame.Feeding
import Pipework.Proofs.Frame.FieldLines
import Pipework.Proofs.Frame.FieldName
import Pipework.Proofs.Frame.Grammar
import Pipework.Proofs.Frame.Head
import Pipework.Proofs.Frame.HeaderBlock
import Pipework.Proofs.Frame.Lines
import Pipework.Proofs.Frame.Prefix
import Pipework.Proofs.Frame.Received
import Pipework.Proofs.Frame.Receiving
import Pipework.Proofs.Frame.Relay
import Pipework.Proofs.Frame.RoundTrip
import Pipework.Proofs.Frame.Rounds
import Pipework.Proofs.Frame.Sending
import Pipework.Proofs.Frame.Serving
import Pipework.Proofs.Frame.Stream
import Pipework.Proofs.Frame.Taking
import Pipework.Proofs.Frame.Transfer
import Pipework.Proofs.Frame.Waiting
import Pipework.Proofs.Graph.RoundTrip
import Pipework.Proofs.Json.Scalars
import Pipework.Proofs.Json.Values
import Pipework.Proofs.Lines
import Pipework.Proofs.NameMap
import Pipework.Proofs.Network.Construction
import Pipework.Proofs.Network.Exactness
import Pipework.Proofs.Network.Layout
import Pipework.Proofs.Network.Validity
import Pipework.Proofs.Path
import Pipework.Proofs.Report.Contents
import Pipework.Proofs.Report.Nodes
import Pipework.Proofs.Report.Reading
import Pipework.Proofs.Report.Sink
import Pipework.Proofs.Run.Accounting
import Pipework.Proofs.Run.Acts
import Pipework.Proofs.Run.Arguments
import Pipework.Proofs.Run.Completion
import Pipework.Proofs.Run.Course
import Pipework.Proofs.Run.Drains
import Pipework.Proofs.Run.Finishing
import Pipework.Proofs.Run.FirstNotices
import Pipework.Proofs.Run.Launching
import Pipework.Proofs.Run.Output
import Pipework.Proofs.Run.Planning
import Pipework.Proofs.Run.Preparing
import Pipework.Proofs.Run.Steps
import Pipework.Proofs.Run.Stores
import Pipework.Proofs.Run.Supervision
import Pipework.Proofs.Run.Supplied
import Pipework.Proofs.Run.Tasks
import Pipework.Proofs.Text
import Pipework.Proofs.Wiring.Containment
import Pipework.Proofs.Wiring.Edges
import Pipework.Proofs.Wiring.Plan
import Pipework.Proofs.Wiring.Refusals
import Pipework.Proofs.Rehearsal
