import DirectoryQuery.Calendar.Date
import DirectoryQuery.Calendar.Moment
import DirectoryQuery.Entity.Basic
import DirectoryQuery.Entity.Composition
import DirectoryQuery.Entity.Descriptor
import DirectoryQuery.Entity.Resolve
import DirectoryQuery.Entity.SearchBase
import DirectoryQuery.Expression.Basic
import DirectoryQuery.Expression.Predicate
import DirectoryQuery.Filter.Assertion
import DirectoryQuery.Filter.Basic
import DirectoryQuery.Filter.Compilation
import DirectoryQuery.Finder.Criteria
import DirectoryQuery.Finder.Keyword
import DirectoryQuery.Finder.Parser
import DirectoryQuery.Finder.Subject
import DirectoryQuery.Json.Basic
import DirectoryQuery.Json.Printer
import DirectoryQuery.Json.Reader
import DirectoryQuery.Name.Basic
import DirectoryQuery.Name.Parser
import DirectoryQuery.Name.Separator
import DirectoryQuery.Numeric.Binary64
import DirectoryQuery.Numeric.Decimal
import DirectoryQuery.Numeric.Numeral
import DirectoryQuery.Numeric.Padded
import DirectoryQuery.Numeric.Radix
import DirectoryQuery.Numeric.Shortest
import DirectoryQuery.Predicate.Basic
import DirectoryQuery.Predicate.Binding
import DirectoryQuery.Predicate.Data
import DirectoryQuery.Predicate.Equality
import DirectoryQuery.Proofs.Entity.Built
import DirectoryQuery.Proofs.Entity.Composition
import DirectoryQuery.Proofs.Entity.Layout
import DirectoryQuery.Proofs.Entity.Readable
import DirectoryQuery.Proofs.Expression.Bracketing
import DirectoryQuery.Proofs.Expression.Canonical
import DirectoryQuery.Proofs.Filter.Failure
import DirectoryQuery.Proofs.Filter.Glob
import DirectoryQuery.Proofs.Filter.Meaning
import DirectoryQuery.Proofs.Filter.Notation
import DirectoryQuery.Proofs.Filter.Pattern
import DirectoryQuery.Proofs.Finder.Arguments
import DirectoryQuery.Proofs.Finder.Order
import DirectoryQuery.Proofs.Finder.Reading
import DirectoryQuery.Proofs.Finder.Steps
import DirectoryQuery.Proofs.Finder.Tree
import DirectoryQuery.Proofs.Finder.Typed
import DirectoryQuery.Proofs.Name.Cutting
import DirectoryQuery.Proofs.Name.Escaping
import DirectoryQuery.Proofs.Name.NormalForm
import DirectoryQuery.Proofs.Name.Readable
import DirectoryQuery.Proofs.Name.Text
import DirectoryQuery.Proofs.Predicate.Arguments
import DirectoryQuery.Proofs.Predicate.Binding
import DirectoryQuery.Proofs.Predicate.Data
import DirectoryQuery.Proofs.Predicate.Filling
import DirectoryQuery.Proofs.Predicate.Keywords
import DirectoryQuery.Proofs.Predicate.RepeatedIndices
import DirectoryQuery.Proofs.Repository.Assignment
import DirectoryQuery.Proofs.Repository.Finders
import DirectoryQuery.Proofs.Repository.Session
import DirectoryQuery.Proofs.Result
import DirectoryQuery.Proofs.Search.Base
import DirectoryQuery.Report
import DirectoryQuery.Report.Detail
import DirectoryQuery.Repository.Assignment
import DirectoryQuery.Repository.Declaration
import DirectoryQuery.Repository.Hierarchy
import DirectoryQuery.Repository.Search
import DirectoryQuery.Repository.Session
import DirectoryQuery.Search.Assembly
import DirectoryQuery.Search.Basic
import DirectoryQuery.Text.Blank
import DirectoryQuery.Text.CodePointSet
import DirectoryQuery.Text.LetterCase
import DirectoryQuery.Text.Quoted
import DirectoryQuery.Text.Similarity
import DirectoryQuery.Text.Split
import DirectoryQuery.Text.Word
import DirectoryQuery.Value.Basic
import DirectoryQuery.Value.Equality
import DirectoryQuery.Value.Label
import DirectoryQuery.Value.Member
import DirectoryQuery.Value.Tagged
import DirectoryQuery.Value.Text
import DirectoryQuery.Value.WholeNumber
import DirectoryQuery.Proofs.Filter.Joining
import DirectoryQuery.Proofs.Filter.Member
import DirectoryQuery.Proofs.Finder.Named
import DirectoryQuery.Proofs.Entity.Coverage
import DirectoryQuery.Proofs.Expression.Acceptance
import DirectoryQuery.Proofs.Json.WholeNumber
import DirectoryQuery.Proofs.Predicate.Location
import DirectoryQuery.Proofs.Predicate.Unreported
import DirectoryQuery.Proofs.Finder.DeclarationOrder
import DirectoryQuery.Proofs.Finder.Furthest
import DirectoryQuery.Proofs.Finder.Subject
import DirectoryQuery.Proofs.Entity.AttributeDescription
import DirectoryQuery.Proofs.Search.Features
import DirectoryQuery.Proofs.Calendar.DayNumber
import DirectoryQuery.Proofs.Calendar.GeneralizedTime
import DirectoryQuery.Proofs.Calendar.Instant
import DirectoryQuery.Proofs.Calendar.Padded
import DirectoryQuery.Proofs.Text.Order
import DirectoryQuery.Proofs.Entity.Addressing
import DirectoryQuery.Proofs.Name.Notation
