import SqlRender.Assoc
import SqlRender.Assoc.Text
import SqlRender.Backend
import SqlRender.Backend.Creation
import SqlRender.Backend.Selection
import SqlRender.ColumnType
import SqlRender.DataSource
import SqlRender.Dialect
import SqlRender.Dialect.Baseline
import SqlRender.Error
import SqlRender.Format
import SqlRender.Fragment
import SqlRender.Log.Notice
import SqlRender.Log.Session
import SqlRender.Log.Trace
import SqlRender.Number.Binary64
import SqlRender.Number.Decimal
import SqlRender.Number.Numeral
import SqlRender.Number.Places
import SqlRender.Number.Shortest
import SqlRender.Predicate
import SqlRender.Predicate.Condition
import SqlRender.Predicate.Lookup
import SqlRender.Predicate.Pool
import SqlRender.Proofs.Agreement
import SqlRender.Proofs.Alignment
import SqlRender.Proofs.Binding
import SqlRender.Proofs.Bundled
import SqlRender.Proofs.Comparison
import SqlRender.Proofs.Compilation
import SqlRender.Proofs.Composition
import SqlRender.Proofs.Correspondence
import SqlRender.Proofs.Declared
import SqlRender.Proofs.DefaultLiteral
import SqlRender.Proofs.EmptySlot
import SqlRender.Proofs.Event
import SqlRender.Proofs.Failure
import SqlRender.Proofs.Filling
import SqlRender.Proofs.Filter
import SqlRender.Proofs.Format
import SqlRender.Proofs.Grouping
import SqlRender.Proofs.Inert
import SqlRender.Proofs.Insertion
import SqlRender.Proofs.Layout
import SqlRender.Proofs.Lexeme
import SqlRender.Proofs.LikePattern
import SqlRender.Proofs.Likeness
import SqlRender.Proofs.LockNotice
import SqlRender.Proofs.LogLevel
import SqlRender.Proofs.Lookup
import SqlRender.Proofs.LookupKey
import SqlRender.Proofs.MapKey
import SqlRender.Proofs.Marker
import SqlRender.Proofs.Meaning
import SqlRender.Proofs.Noninterference
import SqlRender.Proofs.NullComparison
import SqlRender.Proofs.Occurrence
import SqlRender.Proofs.Outcome
import SqlRender.Proofs.Parameter
import SqlRender.Proofs.Phrase
import SqlRender.Proofs.PrimaryColumn
import SqlRender.Proofs.QuotedName
import SqlRender.Proofs.Raw
import SqlRender.Proofs.Reading
import SqlRender.Proofs.RegistryRun
import SqlRender.Proofs.Regrouping
import SqlRender.Proofs.Renaming
import SqlRender.Proofs.Respacing
import SqlRender.Proofs.Segment
import SqlRender.Proofs.SetOperation
import SqlRender.Proofs.SlotLikeness
import SqlRender.Proofs.SlotText
import SqlRender.Proofs.Spacing
import SqlRender.Proofs.Spelling
import SqlRender.Proofs.Steady
import SqlRender.Proofs.TableLine
import SqlRender.Proofs.TableStatement
import SqlRender.Proofs.TemplateReading
import SqlRender.Proofs.Token
import SqlRender.Proofs.Tree
import SqlRender.Proofs.UnnamedKey
import SqlRender.Proofs.Vocabulary
import SqlRender.Proofs.WellTyped
import SqlRender.Query
import SqlRender.Query.Compile
import SqlRender.Query.Slot
import SqlRender.Registry
import SqlRender.Registry.Operation
import SqlRender.Schema
import SqlRender.Schema.Columns
import SqlRender.Schema.Definition
import SqlRender.Symbol
import SqlRender.Template
import SqlRender.Text.Blank
import SqlRender.Text.Digit
import SqlRender.Text.Lower
import SqlRender.Text.Pieces
import SqlRender.Text.Printable
import SqlRender.Text.Quoted
import SqlRender.Text.Word
import SqlRender.Value
import SqlRender.Value.Access
import SqlRender.Value.Equality
import SqlRender.Value.Text
import SqlRender.Proofs.SharedPredicate
