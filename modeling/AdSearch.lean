import AdSearch.Account.BuiltIn
import AdSearch.Account.Document
import AdSearch.Account.Entity
import AdSearch.Account.Listing
import AdSearch.Account.Metrics
import AdSearch.Account.Seed
import AdSearch.Calendar.Date
import AdSearch.Calendar.Literal
import AdSearch.Calendar.Window
import AdSearch.Error
import AdSearch.Http.App
import AdSearch.Http.Envelope
import AdSearch.Http.Framework
import AdSearch.Http.Message
import AdSearch.Http.Redaction
import AdSearch.Json.Basic
import AdSearch.Json.Reader
import AdSearch.Json.Writer
import AdSearch.Keyed
import AdSearch.Log.Line
import AdSearch.Log.Logged
import AdSearch.Log.Registry
import AdSearch.Number.Binary64
import AdSearch.Number.Literal
import AdSearch.Number.Shortest
import AdSearch.Page
import AdSearch.Query.Basic
import AdSearch.Query.Clause
import AdSearch.Query.DateDirective
import AdSearch.Query.Keyword
import AdSearch.Query.Literal
import AdSearch.Query.Parser
import AdSearch.Query.Period
import AdSearch.Query.Predicate
import AdSearch.Query.Split
import AdSearch.Record.Matching
import AdSearch.Record.Projection
import AdSearch.Search
import AdSearch.Server.Address
import AdSearch.Server.Body
import AdSearch.Server.Reply
import AdSearch.Server.Standard
import AdSearch.Setting.Field
import AdSearch.Setting.Settings
import AdSearch.Text.Blank
import AdSearch.Text.Case
import AdSearch.Text.CaseTable
import AdSearch.Text.Encoding
import AdSearch.Text.PrintableTable
import AdSearch.Text.Quoted
import AdSearch.Text.Range
import AdSearch.Text.Scan
import AdSearch.Text.Word
import AdSearch.Text.WordTable
import AdSearch.Value.Basic
import AdSearch.Value.Number
import AdSearch.Value.Text
import AdSearch.Yaml.Cursor
import AdSearch.Yaml.Document
import AdSearch.Yaml.Node
import AdSearch.Yaml.Reader
import AdSearch.Yaml.Scalar
import AdSearch.Yaml.ScalarText
import AdSearch.Proofs.Record.Projection
import AdSearch.Proofs.Outcome
import AdSearch.Proofs.Account.Joining
import AdSearch.Proofs.Http.Encoding
import AdSearch.Proofs.Http.Laws
import AdSearch.Proofs.Http.Answer
import AdSearch.Proofs.Http.Envelope
import AdSearch.Proofs.Http.Refinement
import AdSearch.Proofs.Json.Nesting
import AdSearch.Proofs.Http.Redaction
import AdSearch.Proofs.Server.Standard
import AdSearch.Proofs.Page.Token
import AdSearch.Proofs.Search.Paging
import AdSearch.Proofs.Text.Case
import AdSearch.Proofs.Text.Scan
import AdSearch.Proofs.Query.Predicate
import AdSearch.Proofs.Query.Tolerance
import AdSearch.Proofs.Query.Directive
import AdSearch.Proofs.Query.Ending
import AdSearch.Proofs.Query.Extraction
import AdSearch.Proofs.Query.Heading
import AdSearch.Proofs.Query.Reading
import AdSearch.Proofs.Query.RoundTrip
import AdSearch.Proofs.Query.Meaning
import AdSearch.Proofs.Search.Reordering
import AdSearch.Proofs.Query.Mention
import AdSearch.Proofs.Query.Soundness
import AdSearch.Proofs.Query.Enclosed
import AdSearch.Proofs.Query.QuotedValue
import AdSearch.Proofs.Query.Membership
import AdSearch.Proofs.Record.Pattern
import AdSearch.Proofs.Calendar.Ordinal
import AdSearch.Proofs.Query.Days
import AdSearch.Proofs.Account.Counters
import AdSearch.Proofs.Number.Digits
import AdSearch.Proofs.Number.Rounding
import AdSearch.Proofs.Account.Ratios
import AdSearch.Proofs.Calendar.Week
import AdSearch.Proofs.Calendar.Literal
import AdSearch.Proofs.Query.Between
import AdSearch.Proofs.Number.Range
import AdSearch.Proofs.Value.Text
import AdSearch.Proofs.Record.Evaluation
import AdSearch.Proofs.Number.Order
import AdSearch.Proofs.Record.Coherence
import AdSearch.Proofs.Record.Filtering
import AdSearch.Proofs.Account.Showing
import AdSearch.Proofs.Account.Distinct
import AdSearch.Proofs.Page.Offset
import AdSearch.Proofs.Query.Source
import AdSearch.Proofs.Log.History
import AdSearch.Proofs.Query.Wording
import AdSearch.Proofs.Query.Conservation
