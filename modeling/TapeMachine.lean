import TapeMachine.Listing
import TapeMachine.Machine.Trace
import TapeMachine.Text.Blank
import TapeMachine.Text.DecimalDigit
import TapeMachine.Text.Printable
import TapeMachine.Text.Utf8
import TapeMachine.Text.Quoted
import TapeMachine.Number.Numeral
import TapeMachine.Number.Binary64
import TapeMachine.Number.Binary64.Reading
import TapeMachine.Number.Binary64.Shortest
import TapeMachine.Calendar
import TapeMachine.Value
import TapeMachine.Value.Integer
import TapeMachine.Machine.Loading
import TapeMachine.Machine.Operation
import TapeMachine.Text.Pattern
import TapeMachine.Yaml.Token.Scalar
import TapeMachine.Yaml.Token.Stream
import TapeMachine.Yaml.Node
import TapeMachine.Yaml.Document
import TapeMachine.Text.LineBreak
import TapeMachine.Directory
import TapeMachine.Yaml.Printer
import TapeMachine.Main
import TapeMachine.Proofs.Machine.LoopStack
import TapeMachine.Proofs.Machine.Halting
import TapeMachine.Proofs.Machine.Linked
import TapeMachine.Proofs.Block
import TapeMachine.Proofs.Block.Execution
import TapeMachine.Proofs.Machine.Stripped
import TapeMachine.Proofs.Directory
import TapeMachine.Proofs.Machine.Budget
import TapeMachine.Proofs.Text.Utf8
import TapeMachine.Proofs.Workspace
import TapeMachine.Proofs.Session
import TapeMachine.Proofs.Compile
import TapeMachine.Proofs.Machine.History
import TapeMachine.Proofs.Machine.Executions
import TapeMachine.Proofs.Machine.Delivery
import TapeMachine.Proofs.Machine.Checked
import TapeMachine.Proofs.Machine.Bounds
import TapeMachine.Proofs.Config
import TapeMachine.Proofs.Command.Fill
import TapeMachine.Proofs.Machine.Logged
import TapeMachine.Proofs.Machine.Logged.Lines
import TapeMachine.Proofs.Value
import TapeMachine.Proofs.Config.Settings
import TapeMachine.Proofs.Record
import TapeMachine.Proofs.Record.Results
import TapeMachine.Proofs.Command.Refill
import TapeMachine.Proofs.Machine.Composition
import TapeMachine.Proofs.Machine.Iteration
import TapeMachine.Proofs.Machine.Surplus
import TapeMachine.Proofs.Machine.Widened
import TapeMachine.Proofs.Compile.Bytes
import TapeMachine.Proofs.Compile.Source
import TapeMachine.Proofs.Config.Normal
import TapeMachine.Proofs.Machine.Forward
import TapeMachine.Proofs.Machine.Refusal
import TapeMachine.Proofs.Session.Artefacts
import TapeMachine.Proofs.Tape
import TapeMachine.Proofs.Text.Fields
import TapeMachine.Proofs.Listing
import TapeMachine.Proofs.Dump
import TapeMachine.Proofs.Session.Quiet
import TapeMachine.Proofs.Command.Run
import TapeMachine.Proofs.Brackets.Closing
import TapeMachine.Proofs.Machine.Skipping
