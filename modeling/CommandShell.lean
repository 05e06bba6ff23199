import CommandShell.Builtin.Library
import CommandShell.Builtin.Text
import CommandShell.Builtin.Util
import CommandShell.Bundle
import CommandShell.Bundle.Reader
import CommandShell.Cancellation
import CommandShell.Command
import CommandShell.CommandLine
import CommandShell.CommandName
import CommandShell.Config
import CommandShell.Dispatcher
import CommandShell.Dispatcher.Slot
import CommandShell.Error
import CommandShell.FileTree
import CommandShell.Host
import CommandShell.LogFilter
import CommandShell.MacroFile
import CommandShell.MacroTable
import CommandShell.Main
import CommandShell.Module
import CommandShell.Name
import CommandShell.NameMap
import CommandShell.Outlets
import CommandShell.Path
import CommandShell.Proofs.Conversation
import CommandShell.Proofs.Session.Evaluation
import CommandShell.Proofs.Session.Interruption
import CommandShell.Proofs.Session.Invocation
import CommandShell.Proofs.Session.Rollback
import CommandShell.Regex.Bracket
import CommandShell.Regex.CharSet
import CommandShell.Regex.Escape
import CommandShell.Regex.Expression
import CommandShell.Regex.Matching
import CommandShell.Regex.Property
import CommandShell.Regex.Reader
import CommandShell.Regex.Syntax
import CommandShell.Registry
import CommandShell.Rule
import CommandShell.Session
import CommandShell.Session.Evaluate
import CommandShell.Session.Step
import CommandShell.Shell
import CommandShell.SystemModule
import CommandShell.Task
import CommandShell.Terminal
import CommandShell.Text.Blank
import CommandShell.Text.Erasure
import CommandShell.Text.Escaped
import CommandShell.Text.Integer
import CommandShell.Text.Line
import CommandShell.Token
import CommandShell.Token.Lexer
import CommandShell.Token.Quoted
import CommandShell.Toml.Item
import CommandShell.Toml.Quotation
import CommandShell.Toml.Reader
import CommandShell.Toml.Scalar
import CommandShell.Toml.Writer
import CommandShell.Unicode.Alphabetic
import CommandShell.Unicode.BinaryProperty
import CommandShell.Unicode.CaseOrbit
import CommandShell.Unicode.CaseRow
import CommandShell.Unicode.Category
import CommandShell.Unicode.CategoryRanges
import CommandShell.Unicode.CodeRanges
import CommandShell.Unicode.Printable
import CommandShell.Unicode.Script
import CommandShell.Unicode.Uppercase
import CommandShell.Unicode.Word
import CommandShell.Value
import CommandShell.Value.Access
import CommandShell.Proofs.Dispatcher.Coherence
import CommandShell.Proofs.Dispatcher.HandOff
import CommandShell.Proofs.Dispatcher.Replay
import CommandShell.Proofs.Dispatcher.Delivery
import CommandShell.Proofs.Dispatcher.Aim
import CommandShell.Proofs.Dispatcher.Stopping
import CommandShell.Proofs.Session.Loading
import CommandShell.Proofs.Line.Decimal
import CommandShell.Proofs.Line.Lexing
import CommandShell.Proofs.Line.Scanning
import CommandShell.Proofs.Line.Names
import CommandShell.Proofs.Line.Grammar
import CommandShell.Proofs.Line.Writing
import CommandShell.Proofs.Line.References
import CommandShell.Proofs.Line.Position
import CommandShell.Proofs.Line.Unterminated
import CommandShell.Proofs.Line.Conservation
import CommandShell.Proofs.Line.Joining
import CommandShell.Proofs.Line.Expansion
import CommandShell.Proofs.Session.Reading
import CommandShell.Proofs.Line.RoundTrip
import CommandShell.Proofs.Line.Derivation
import CommandShell.Proofs.Session.NetChange
import CommandShell.Proofs.Session.Operation
import CommandShell.Proofs.Session.Nesting
import CommandShell.Proofs.Session.Guarding
import CommandShell.Proofs.Session.Pipeline
import CommandShell.Proofs.Assembly
import CommandShell.Proofs.Session.PreviousOutput
import CommandShell.Proofs.Session.Tracing
import CommandShell.Proofs.Session.ExitRequest
import CommandShell.Proofs.Session.Showing
import CommandShell.Proofs.Session.Soundness
import CommandShell.Proofs.Session.Addressing
import CommandShell.Proofs.Session.Execution
import CommandShell.Proofs.Session.Upkeep
import CommandShell.Proofs.Toml.RoundTrip
import CommandShell.Proofs.Storage
import CommandShell.Proofs.Session.Survival
import CommandShell.Proofs.Shell
import CommandShell.Proofs.Resolution
import CommandShell.Proofs.Line.Heads
import CommandShell.Proofs.Session.Depth
import CommandShell.Proofs.Session.Chains
import CommandShell.Proofs.Session.Calling
import CommandShell.Proofs.DirectCall
import CommandShell.Proofs.Startup
import CommandShell.Proofs.Builtins
import CommandShell.Proofs.MacroCommand
import CommandShell.Proofs.Summation
import CommandShell.Proofs.ImageSize
import CommandShell.Proofs.Line.Integers
import CommandShell.Proofs.Terminal
import CommandShell.Proofs.Selection
