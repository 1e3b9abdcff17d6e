import Criteria.Catalog
import Criteria.Catalog.Json
import Criteria.CharSet
import Criteria.CharSet.Age
import Criteria.CharSet.Break
import Criteria.CharSet.Category
import Criteria.CharSet.Fold
import Criteria.CharSet.Property
import Criteria.CharSet.Query
import Criteria.CharSet.Script
import Criteria.CharSet.Utf8
import Criteria.Date
import Criteria.Date.Pattern
import Criteria.Date.Reader
import Criteria.Date.Timestamp
import Criteria.Document
import Criteria.Edit.Claim
import Criteria.Edit.Json
import Criteria.Edit.Mutation
import Criteria.Edit.Place
import Criteria.Export
import Criteria.Export.Json
import Criteria.History
import Criteria.Ids
import Criteria.Json
import Criteria.Json.Decoder
import Criteria.Json.Draft
import Criteria.Json.Reader
import Criteria.Json.Writer
import Criteria.Lint
import Criteria.Lint.Contradiction
import Criteria.Lint.Finding
import Criteria.Lint.Operand
import Criteria.Lint.Restriction
import Criteria.Lint.Rule
import Criteria.Main
import Criteria.Mongo
import Criteria.Number
import Criteria.Number.Decimal
import Criteria.Number.Text
import Criteria.Operator
import Criteria.Path
import Criteria.Pattern
import Criteria.Pattern.Bracket
import Criteria.Pattern.Escape
import Criteria.Pattern.Flags
import Criteria.Pattern.Marked
import Criteria.Pattern.Parser
import Criteria.Pattern.Size
import Criteria.Pattern.Token
import Criteria.Pipeline
import Criteria.Project
import Criteria.Project.Check
import Criteria.Project.CommandLine
import Criteria.Project.Compile
import Criteria.Project.Config
import Criteria.Project.Create
import Criteria.Project.TreeFile
import Criteria.Readable
import Criteria.Rendering
import Criteria.Resolver
import Criteria.SavedQuery
import Criteria.SavedQuery.Json
import Criteria.Sql
import Criteria.Sql.Compile
import Criteria.Storage
import Criteria.Storage.Disk
import Criteria.Storage.Session
import Criteria.Text.Blank
import Criteria.Tree
import Criteria.Tree.Json
import Criteria.Tree.Lookup
import Criteria.Value
import Criteria.Value.Json
import Criteria.Proofs.Edit.Claim
import Criteria.Proofs.Edit.Place
import Criteria.Proofs.Edit.Distinct
import Criteria.Proofs.Edit.Depth
import Criteria.Proofs.Edit.Issue
import Criteria.Proofs.Edit.Rejection
import Criteria.Proofs.Document.Run
import Criteria.Proofs.Document.Distinct
import Criteria.Proofs.Document.Depth
import Criteria.Proofs.Document.Atomic
import Criteria.Proofs.Number.Order
import Criteria.Proofs.Number.Text
import Criteria.Proofs.Number.Nearest
import Criteria.Proofs.Number.Spelled
import Criteria.Proofs.Date.Text
import Criteria.Proofs.Date.Timestamp
import Criteria.Proofs.Date.Order
import Criteria.Proofs.Json.Value
import Criteria.Proofs.Json.Numeral
import Criteria.Proofs.Json.Quoted
import Criteria.Proofs.Json.Draft
import Criteria.Proofs.Json.Text
import Criteria.Proofs.Json.Decode
import Criteria.Proofs.Tree.Lookup
import Criteria.Proofs.Tree.Order
import Criteria.Proofs.Tree.Alike
import Criteria.Proofs.Tree.Json
import Criteria.Proofs.Tree.RoundTrip
import Criteria.Proofs.Tree.Reread
import Criteria.Proofs.Edit.Json
import Criteria.Proofs.SavedQuery.Json
import Criteria.Proofs.Storage
import Criteria.Proofs.Document.Reopen
import Criteria.Proofs.Sql.Lexer
import Criteria.Proofs.Rendering
import Criteria.Proofs.Truth
import Criteria.Proofs.Formula
import Criteria.Proofs.Sql.Tokens
import Criteria.Proofs.Sql.Row
import Criteria.Proofs.Sql.Grammar
import Criteria.Proofs.Sql.Meaning
import Criteria.Proofs.Sql.Keyword
import Criteria.Proofs.Sql.Quoting
import Criteria.Proofs.Sql.Like
import Criteria.Proofs.Mongo.Meaning
import Criteria.Proofs.Mongo.Search
import Criteria.Proofs.Matching
import Criteria.Proofs.History.Run
import Criteria.Proofs.History.Timeline
import Criteria.Proofs.History.Checked
import Criteria.Proofs.History.Batch
import Criteria.Proofs.History.Neighbours
import Criteria.Proofs.Document.Steps
import Criteria.Proofs.Document.Undo
import Criteria.Proofs.Document.Neighbours
import Criteria.Proofs.Document.Version
import Criteria.Proofs.Document.Dirty
import Criteria.Proofs.Pipeline
import Criteria.Proofs.Lint.Conforms
import Criteria.Proofs.Lint.Valid
import Criteria.Proofs.Lint.Interval
import Criteria.Proofs.Lint.Runs
import Criteria.Proofs.Lint.Contradiction
import Criteria.Proofs.Lint.Agreement
import Criteria.Proofs.Lint.Report
import Criteria.Proofs.Lint.Order
import Criteria.Proofs.Lint.Signed
import Criteria.Proofs.Lint.Disabled
import Criteria.Proofs.Lint.Keys
import Criteria.Proofs.Lint.Apart
import Criteria.Proofs.Lint.Distinct
import Criteria.Proofs.Lint.Alike
import Criteria.Proofs.Literals
import Criteria.Proofs.Typed
import Criteria.Proofs.Sql.Pieces
import Criteria.Proofs.Mongo.Dates
import Criteria.Proofs.Rendering.Empty
import Criteria.Proofs.Rendering.Alike
import Criteria.Proofs.Export.Empty
import Criteria.Proofs.Edit.Trace
import Criteria.Proofs.Date.Normal
import Criteria.Proofs.Number.Written
import Criteria.Proofs.Resolver
import Criteria.Proofs.Catalog.Merge
import Criteria.Proofs.Lint.Resolved
import Criteria.Proofs.Catalog.Options
import Criteria.Proofs.Catalog.Json
import Criteria.Proofs.Json.Source
import Criteria.Proofs.Document.Readers
import Criteria.Proofs.Tree.Position
import Criteria.Proofs.Edit.Locality
import Criteria.Proofs.Tree.Searches
import Criteria.Proofs.Tree.Entry
import Criteria.Proofs.Edit.Move
import Criteria.Proofs.Ids
import Criteria.Proofs.Ids.Counter
import Criteria.Proofs.Ids.Fresh
import Criteria.Proofs.Ids.Search
import Criteria.Proofs.Edit.Assign
import Criteria.Proofs.Edit.Copy
import Criteria.Proofs.Edit.Insertion
import Criteria.Proofs.Edit.Supplied
import Criteria.Proofs.Edit.Revision
import Criteria.Proofs.Edit.Commute
import Criteria.Proofs.Edit.Twice
import Criteria.Proofs.Storage.Growth
import Criteria.Proofs.Storage.Rerun
import Criteria.Proofs.Storage.Session
import Criteria.Proofs.Path
import Criteria.Proofs.Storage.Sound
import Criteria.Proofs.Storage.Writes
import Criteria.Proofs.Export.Apart
import Criteria.Proofs.Project.Prepare
import Criteria.Proofs.Project.Compile
import Criteria.Proofs.Project.Outputs
import Criteria.Proofs.Project.Written
import Criteria.Proofs.Project.Overwritten
