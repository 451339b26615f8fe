import RecordFilter.Calendar.Date
import RecordFilter.Calendar.Date.Text
import RecordFilter.Calendar.Scan
import RecordFilter.Calendar.Timestamp
import RecordFilter.Calendar.Timestamp.Text
import RecordFilter.CommandLine.Basic
import RecordFilter.CommandLine.Help
import RecordFilter.CommandLine.Outcome
import RecordFilter.CommandLine.Run
import RecordFilter.Entity
import RecordFilter.Environment
import RecordFilter.Fields
import RecordFilter.Filter.Basic
import RecordFilter.Filter.Builder
import RecordFilter.Filter.Json
import RecordFilter.Filter.Literal
import RecordFilter.Filter.Operator
import RecordFilter.Filter.Outline
import RecordFilter.Filter.Path
import RecordFilter.Filter.Word
import RecordFilter.Json.Basic
import RecordFilter.Json.Member
import RecordFilter.Json.Numeral
import RecordFilter.Json.Text
import RecordFilter.Json.Token
import RecordFilter.Json.Written
import RecordFilter.Main
import RecordFilter.Number.Decimal
import RecordFilter.Number.Decimal.Text
import RecordFilter.Number.Double
import RecordFilter.Number.Double.Scaling
import RecordFilter.Number.Double.Shortest
import RecordFilter.Number.Double.Text
import RecordFilter.Numeral.Digits
import RecordFilter.Numeral.Integer
import RecordFilter.Numeral.Layout
import RecordFilter.Pattern.Automaton.Basic
import RecordFilter.Pattern.Automaton.Cache
import RecordFilter.Pattern.Automaton.Extent
import RecordFilter.Pattern.Automaton.Letters
import RecordFilter.Pattern.Automaton.Trie
import RecordFilter.Pattern.Basic
import RecordFilter.Pattern.Bounds
import RecordFilter.Pattern.Bracket
import RecordFilter.Pattern.Escape
import RecordFilter.Pattern.Expression
import RecordFilter.Pattern.Lead
import RecordFilter.Pattern.Lead.Selection
import RecordFilter.Pattern.Look
import RecordFilter.Pattern.Meaning
import RecordFilter.Pattern.Plain
import RecordFilter.Pattern.Regex
import RecordFilter.Pattern.Scan
import RecordFilter.Pattern.Search
import RecordFilter.Pattern.Text
import RecordFilter.Predicate.Basic
import RecordFilter.Predicate.Coercion
import RecordFilter.Predicate.Compile
import RecordFilter.Predicate.Error
import RecordFilter.Predicate.Focus
import RecordFilter.Predicate.Plan
import RecordFilter.Predicate.Relation
import RecordFilter.Predicate.Route
import RecordFilter.Predicate.Untyped
import RecordFilter.Proofs.Calendar.Text
import RecordFilter.Proofs.Environment
import RecordFilter.Proofs.Fields
import RecordFilter.Proofs.Filter.Case
import RecordFilter.Proofs.Filter.Grammar
import RecordFilter.Proofs.Filter.Outline
import RecordFilter.Proofs.Filter.Path
import RecordFilter.Proofs.Filter.Preorder
import RecordFilter.Proofs.Filter.RoundTrip
import RecordFilter.Proofs.Json.Numeral
import RecordFilter.Proofs.Json.Quoted
import RecordFilter.Proofs.Json.RoundTrip
import RecordFilter.Proofs.Number.Decimal
import RecordFilter.Proofs.Number.Double
import RecordFilter.Proofs.Number.Rounding
import RecordFilter.Proofs.Number.Shortest
import RecordFilter.Proofs.Number.Text
import RecordFilter.Proofs.Numeral.Digits
import RecordFilter.Proofs.Outcome
import RecordFilter.Proofs.Pattern.Limit
import RecordFilter.Proofs.Predicate.Agreement
import RecordFilter.Proofs.Predicate.Arrival
import RecordFilter.Proofs.Predicate.Blame
import RecordFilter.Proofs.Predicate.Comparison
import RecordFilter.Proofs.Predicate.Complement
import RecordFilter.Proofs.Predicate.Declared
import RecordFilter.Proofs.Predicate.Duality
import RecordFilter.Proofs.Predicate.Emptiness
import RecordFilter.Proofs.Predicate.Equality
import RecordFilter.Proofs.Predicate.Field
import RecordFilter.Proofs.Predicate.Finding
import RecordFilter.Proofs.Predicate.Fusion
import RecordFilter.Proofs.Predicate.Grouping
import RecordFilter.Proofs.Predicate.Growth
import RecordFilter.Proofs.Predicate.Interchange
import RecordFilter.Proofs.Predicate.Likeness
import RecordFilter.Proofs.Predicate.Loading
import RecordFilter.Proofs.Predicate.Location
import RecordFilter.Proofs.Predicate.Membership
import RecordFilter.Proofs.Predicate.Operand
import RecordFilter.Proofs.Predicate.Ordered
import RecordFilter.Proofs.Predicate.Planning
import RecordFilter.Proofs.Predicate.Quantification
import RecordFilter.Proofs.Predicate.Reading
import RecordFilter.Proofs.Predicate.Recasing
import RecordFilter.Proofs.Predicate.SetEquality
import RecordFilter.Proofs.Predicate.Settling
import RecordFilter.Proofs.Predicate.Shape
import RecordFilter.Proofs.Predicate.Storage
import RecordFilter.Proofs.Predicate.Straight
import RecordFilter.Proofs.Predicate.Typing
import RecordFilter.Proofs.Predicate.Untyped
import RecordFilter.Proofs.Predicate.Watching
import RecordFilter.Proofs.Predicate.WellFormed
import RecordFilter.Proofs.Predicate.Whole
import RecordFilter.Proofs.Schema.Parts
import RecordFilter.Proofs.Stream
import RecordFilter.Proofs.Text
import RecordFilter.Proofs.Value.Assignment
import RecordFilter.Proofs.Value.Conformity
import RecordFilter.Proofs.Value.Conversion
import RecordFilter.Proofs.Value.Declared
import RecordFilter.Proofs.Value.Dense
import RecordFilter.Proofs.Value.Equality
import RecordFilter.Proofs.Value.Equivalence
import RecordFilter.Proofs.Value.FieldOrder
import RecordFilter.Proofs.Value.Fitting
import RecordFilter.Proofs.Value.Latest
import RecordFilter.Proofs.Value.Loading
import RecordFilter.Proofs.Value.Order
import RecordFilter.Proofs.Value.Quantity
import RecordFilter.Proofs.Value.SetEquality
import RecordFilter.Proofs.Value.Standing
import RecordFilter.Reasons
import RecordFilter.Schema.Basic
import RecordFilter.Schema.Json
import RecordFilter.Settings.Basic
import RecordFilter.Settings.Json
import RecordFilter.Stream
import RecordFilter.Text.Blank
import RecordFilter.Text.Case
import RecordFilter.Text.Lines
import RecordFilter.Text.Search
import RecordFilter.Unicode.Age
import RecordFilter.Unicode.Binary
import RecordFilter.Unicode.Break.Cluster
import RecordFilter.Unicode.Break.Sentence
import RecordFilter.Unicode.Break.Word
import RecordFilter.Unicode.Category
import RecordFilter.Unicode.CodeSet
import RecordFilter.Unicode.Derived
import RecordFilter.Unicode.Encoding
import RecordFilter.Unicode.Folding
import RecordFilter.Unicode.Property
import RecordFilter.Unicode.Script
import RecordFilter.Unicode.ScriptExtension
import RecordFilter.Unicode.Word
import RecordFilter.Uuid
import RecordFilter.Value.Basic
import RecordFilter.Value.Conversion
import RecordFilter.Value.Json
import RecordFilter.Value.Order
import RecordFilter.Value.Parse
import RecordFilter.Value.Text
