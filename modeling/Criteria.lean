import Criteria.Text.Blank
import Criteria.Text.Digit
import Criteria.Text.Uppercase
import Criteria.Text.CaseFolding
import Criteria.Text.Printable
import Criteria.Number.Numeral
import Criteria.Number.Shortest
import Criteria.Calendar.Reader
import Criteria.Uuid
import Criteria.Json.Printer
import Criteria.Json.Reader
import Criteria.Assignment
import Criteria.Report
import Criteria.Criterion
import Criteria.Filter
import Criteria.Value
import Criteria.Predicate.OfFilter
import Criteria.Statement
import Criteria.Selection
import Criteria.Settings
import Criteria.Journal
import Criteria.Proofs.Filter.Validity
import Criteria.Proofs.Filter.Violations
import Criteria.Proofs.Selection.Construction
import Criteria.Proofs.Filter.Compilation
import Criteria.Proofs.Filter.Format
import Criteria.Proofs.Selection.Compilation
import Criteria.Proofs.Selection.Run
import Criteria.Proofs.Selection.Meaning
import Criteria.Proofs.Selection.Answers
import Criteria.Proofs.Selection.LifeCycle
import Criteria.Proofs.Selection.Messages
import Criteria.Proofs.Sql.Grammar
import Criteria.Proofs.Predicate.Proper
import Criteria.Proofs.Sql.Reading
import Criteria.Proofs.Selection.Text
import Criteria.Proofs.Selection.Restriction
import Criteria.Proofs.Predicate.Shape
import Criteria.Proofs.Sql.Shape
import Criteria.Proofs.Selection.Shape
import Criteria.Proofs.Criterion.Columns
import Criteria.Proofs.Criterion.Names
import Criteria.Proofs.Selection.Columns
import Criteria.Proofs.Selection.Configuration
import Criteria.Proofs.Predicate.Leaves
import Criteria.Proofs.Sql.Parameters
import Criteria.Proofs.Filter.Leaves
import Criteria.Proofs.Selection.Leaves
import Criteria.Proofs.Number.Numeral
import Criteria.Proofs.Number.Digits
import Criteria.Proofs.Number.Decimal
import Criteria.Proofs.Text.Blank
import Criteria.Proofs.Text.Span
import Criteria.Proofs.Number.Spelling
import Criteria.Proofs.Number.Canonical
import Criteria.Proofs.Number.Rounding
import Criteria.Proofs.Number.Integers
import Criteria.Proofs.Uuid
import Criteria.Proofs.Calendar.Reality
import Criteria.Proofs.Calendar.Canonical
import Criteria.Proofs.Value.Conversion
import Criteria.Proofs.Value.Exactness
import Criteria.Proofs.Value.Finiteness
import Criteria.Proofs.Value.Comparison
import Criteria.Proofs.Value.Rereading
import Criteria.Proofs.Selection.Refusal
import Criteria.Proofs.Criterion.Record
import Criteria.Proofs.Text.CaseMapping
import Criteria.Proofs.Text.CaseFolding
import Criteria.Proofs.Text.Uppercasing
import Criteria.Proofs.Filter.Tokens
import Criteria.Proofs.Filter.Examples
import Criteria.Proofs.Json.Strings
import Criteria.Proofs.Selection.ShownValues
import Criteria.Proofs.Selection.Events
import Criteria.Proofs.Journal.Lookup
import Criteria.Proofs.Journal.Emission
import Criteria.Proofs.Journal.Run
import Criteria.Proofs.Settings.Loading
import Criteria.Proofs.Settings.Levels
import Criteria.Proofs.Number.Grammar
import Criteria.Proofs.Criterion.CamelCase
import Criteria.Proofs.Filter.Operations
