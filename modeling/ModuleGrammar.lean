import ModuleGrammar.Text.Basic
import ModuleGrammar.Text.Blank
import ModuleGrammar.Text.Line
import ModuleGrammar.Text.Hexadecimal
import ModuleGrammar.Text.Printable
import ModuleGrammar.Text.Quoted
import ModuleGrammar.Text.Numeral
import ModuleGrammar.Text.Utf8
import ModuleGrammar.Text.CodeUnit
import ModuleGrammar.Text.Percent
import ModuleGrammar.Token
import ModuleGrammar.Token.Segment
import ModuleGrammar.Token.Listing
import ModuleGrammar.Identifier
import ModuleGrammar.Diagnostic
import ModuleGrammar.Position
import ModuleGrammar.Diagnostic.Excerpt
import ModuleGrammar.Check
import ModuleGrammar.Style
import ModuleGrammar.Layout
import ModuleGrammar.Layout.Cleanup
import ModuleGrammar.Grammar
import ModuleGrammar.Decimal.Binary
import ModuleGrammar.Decimal.Shortest
import ModuleGrammar.Setting.Calendar
import ModuleGrammar.Setting.Value
import ModuleGrammar.Style.Layer
import ModuleGrammar.Toml.Reader
import ModuleGrammar.Toml.Quotation
import ModuleGrammar.Toml.Scalar
import ModuleGrammar.Toml.Namespace
import ModuleGrammar.Toml.Document
import ModuleGrammar.File.Path
import ModuleGrammar.File.Fault
import ModuleGrammar.File.Store
import ModuleGrammar.Command.Option
import ModuleGrammar.Command.Usage
import ModuleGrammar.Command.Invocation
import ModuleGrammar.Command.Crash
import ModuleGrammar.Command.Request
import ModuleGrammar.Command.Run
import ModuleGrammar.Command.Watch
import ModuleGrammar.Protocol.Point
import ModuleGrammar.Protocol.Message
import ModuleGrammar.Protocol.Host
import ModuleGrammar.Protocol.Uri
import ModuleGrammar.Protocol.Workspace
import ModuleGrammar.Editor.Session
import ModuleGrammar.Main
import ModuleGrammar.Proofs.Character
import ModuleGrammar.Proofs.Word
import ModuleGrammar.Proofs.Lexeme
import ModuleGrammar.Proofs.Cleanup
import ModuleGrammar.Proofs.Layout
import ModuleGrammar.Proofs.Coverage
import ModuleGrammar.Proofs.Formatting
import ModuleGrammar.Proofs.Seam
import ModuleGrammar.Proofs.Selection
import ModuleGrammar.Proofs.Convergence
import ModuleGrammar.Proofs.Derivation
import ModuleGrammar.Proofs.Finding
import ModuleGrammar.Proofs.Review
import ModuleGrammar.Proofs.Soundness
import ModuleGrammar.Proofs.Acceptance
import ModuleGrammar.Proofs.Tidy
import ModuleGrammar.Proofs.Printing
import ModuleGrammar.Proofs.Phrase
import ModuleGrammar.Proofs.Nesting
import ModuleGrammar.Proofs.Anchor
import ModuleGrammar.Proofs.Excerpt
import ModuleGrammar.Proofs.Notice
import ModuleGrammar.Proofs.Encoding
import ModuleGrammar.Proofs.Storage
import ModuleGrammar.Proofs.Spacing
import ModuleGrammar.Proofs.Arguments
import ModuleGrammar.Proofs.Request
import ModuleGrammar.Proofs.Course
import ModuleGrammar.Proofs.Checking
import ModuleGrammar.Proofs.Balance
import ModuleGrammar.Proofs.Priority
import ModuleGrammar.Proofs.Outcome
import ModuleGrammar.Proofs.Watching
import ModuleGrammar.Proofs.Choice
import ModuleGrammar.Proofs.Classification
import ModuleGrammar.Proofs.Continuation
import ModuleGrammar.Proofs.Indentation
import ModuleGrammar.Proofs.Separation
import ModuleGrammar.Proofs.Composition
import ModuleGrammar.Proofs.Shape
import ModuleGrammar.Proofs.Registry
import ModuleGrammar.Proofs.Layering
import ModuleGrammar.Proofs.Listing
import ModuleGrammar.Proofs.Position
import ModuleGrammar.Proofs.Charge
import ModuleGrammar.Proofs.Precedence
import ModuleGrammar.Proofs.Reuse
