import ParserKit.Blueprint.Basic
import ParserKit.Blueprint.Kind
import ParserKit.Blueprint.Meaning
import ParserKit.Cursor.Basic
import ParserKit.Cursor.TextIndex
import ParserKit.Deferred
import ParserKit.Fault
import ParserKit.Grammar.Basic
import ParserKit.Grammar.Pattern
import ParserKit.Grammar.Rules
import ParserKit.Grammar.Text
import ParserKit.Grammar.Unfold
import ParserKit.Json
import ParserKit.Labels
import ParserKit.Message
import ParserKit.Nesting
import ParserKit.Number.Decimal
import ParserKit.Number.Integer
import ParserKit.Outcome
import ParserKit.Parser.Basic
import ParserKit.Parser.Derived
import ParserKit.Parser.Primitive
import ParserKit.Parser.Repetition
import ParserKit.Regex.CharSet
import ParserKit.Regex.Class
import ParserKit.Regex.Engine
import ParserKit.Regex.Program
import ParserKit.Regex.Reader
import ParserKit.Regex.Syntax
import ParserKit.Reply
import ParserKit.Session.Cursors
import ParserKit.Session.Messages
import ParserKit.Session.Outcomes
import ParserKit.Session.Parsing
import ParserKit.Session.References
import ParserKit.Slots.Basic
import ParserKit.Slots.Rules
import ParserKit.Text.Alphabetic
import ParserKit.Text.Blank
import ParserKit.Text.CaseFold
import ParserKit.Text.Category
import ParserKit.Text.Extender
import ParserKit.Text.Hexadecimal
import ParserKit.Text.Quoted
import ParserKit.Text.RangeTable
import ParserKit.Text.Script
import ParserKit.Token
import ParserKit.Value.Basic
import ParserKit.Value.Json
import ParserKit.Value.Operation
import ParserKit.Proofs.Cursor.Order
import ParserKit.Proofs.Parser.Results
import ParserKit.Proofs.Parser.Rounds
import ParserKit.Proofs.Grammar.Forms
import ParserKit.Proofs.Grammar.Transport
import ParserKit.Proofs.Contract
import ParserKit.Proofs.Truthfulness
import ParserKit.Proofs.Attempts
import ParserKit.Proofs.Recognition
import ParserKit.Proofs.Grammar.Counting
import ParserKit.Proofs.Lookahead
import ParserKit.Proofs.Laws
import ParserKit.Proofs.Sequencing
import ParserKit.Proofs.Cursor.Text
import ParserKit.Proofs.Translation
import ParserKit.Proofs.Grammar.LeftCalls
import ParserKit.Proofs.Termination
import ParserKit.Proofs.Naming
import ParserKit.Proofs.Grammar.References
import ParserKit.Proofs.Safety
import ParserKit.Proofs.Laziness
import ParserKit.Proofs.Grammar.Parametric
import ParserKit.Proofs.Parser.Onward
import ParserKit.Proofs.Depth
import ParserKit.Proofs.Unfolding
import ParserKit.Proofs.Commitment
import ParserKit.Proofs.Deferral
import ParserKit.Proofs.Parser.Reading
import ParserKit.Proofs.Grammar.Literal
import ParserKit.Proofs.Json.Rendering
import ParserKit.Proofs.Json.RoundTrip
import ParserKit.Proofs.Slots.References
import ParserKit.Proofs.Slots.Sweeping
import ParserKit.Proofs.Slots.Registry
import ParserKit.Proofs.Slots.Running
import ParserKit.Proofs.Slots.LifeCycle
import ParserKit.Proofs.Expectations
import ParserKit.Proofs.Parser.Greedy
import ParserKit.Proofs.Merging
import ParserKit.Proofs.Choice
import ParserKit.Proofs.Number.Integer
import ParserKit.Proofs.Parser.Missing
import ParserKit.Proofs.Parser.Separated
import ParserKit.Proofs.Number.Decimal
import ParserKit.Proofs.Number.Scale
import ParserKit.Proofs.Number.RoundTrip
import ParserKit.Proofs.Grammar.Pattern
import ParserKit.Proofs.Cursor.History
import ParserKit.Proofs.Cursor.Index
import ParserKit.Proofs.Number.Exponent
import ParserKit.Proofs.Wording
