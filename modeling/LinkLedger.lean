import LinkLedger.Check.Pass
import LinkLedger.Check.Result
import LinkLedger.Check.Rules
import LinkLedger.Check.Underway
import LinkLedger.CleanUp.Counts
import LinkLedger.CleanUp.Document
import LinkLedger.CleanUp.Locks
import LinkLedger.CleanUp.Parallel
import LinkLedger.CleanUp.Pass
import LinkLedger.CleanUp.Removal
import LinkLedger.CleanUp.Shared
import LinkLedger.Content.Basic
import LinkLedger.Content.Document
import LinkLedger.Decimal.Shortest
import LinkLedger.Extract.Markup
import LinkLedger.Extract.Registry
import LinkLedger.Extract.Text
import LinkLedger.Extract.Unique
import LinkLedger.Failure
import LinkLedger.Html.Builder
import LinkLedger.Html.Element
import LinkLedger.Html.Entity
import LinkLedger.Html.Formatting
import LinkLedger.Html.Fragment
import LinkLedger.Html.Names
import LinkLedger.Html.Reference
import LinkLedger.Html.Rules.Body
import LinkLedger.Html.Rules.Table
import LinkLedger.Html.Tag
import LinkLedger.Html.Token
import LinkLedger.Http.Exchange
import LinkLedger.Http.Fetch
import LinkLedger.Index.Access
import LinkLedger.Index.Basic
import LinkLedger.Index.Faults
import LinkLedger.Json.Basic
import LinkLedger.Json.Decode
import LinkLedger.Json.Quantity
import LinkLedger.Json.Reader
import LinkLedger.Json.Writer
import LinkLedger.Link.Classifier
import LinkLedger.Link.Document
import LinkLedger.Link.Kind
import LinkLedger.Link.Resolve
import LinkLedger.Markdown.Address
import LinkLedger.Markdown.Block
import LinkLedger.Markdown.Inline
import LinkLedger.Markdown.Line
import LinkLedger.Markdown.Scan
import LinkLedger.Markdown.Tag
import LinkLedger.Proofs.Check.Completion
import LinkLedger.Proofs.Check.Interruption
import LinkLedger.Proofs.Check.Paging
import LinkLedger.Proofs.Check.Repeats
import LinkLedger.Proofs.Check.WriteBack
import LinkLedger.Proofs.CleanUp.Cursor
import LinkLedger.Proofs.CleanUp.Document
import LinkLedger.Proofs.CleanUp.Emptying
import LinkLedger.Proofs.CleanUp.Exactness
import LinkLedger.Proofs.CleanUp.Existence
import LinkLedger.Proofs.CleanUp.Guard
import LinkLedger.Proofs.CleanUp.Interruption
import LinkLedger.Proofs.CleanUp.LockCounts
import LinkLedger.Proofs.CleanUp.LockMap
import LinkLedger.Proofs.CleanUp.LockQueues
import LinkLedger.Proofs.CleanUp.Parallel
import LinkLedger.Proofs.CleanUp.Pass
import LinkLedger.Proofs.CleanUp.Polling
import LinkLedger.Proofs.CleanUp.Queues
import LinkLedger.Proofs.CleanUp.Reconciliation
import LinkLedger.Proofs.CleanUp.Removal
import LinkLedger.Proofs.CleanUp.Shared
import LinkLedger.Proofs.CleanUp.Unnumbered
import LinkLedger.Proofs.Extract.Attributes
import LinkLedger.Proofs.Extract.Categories
import LinkLedger.Proofs.Extract.DocumentOrder
import LinkLedger.Proofs.Extract.FirstOccurrences
import LinkLedger.Proofs.Extract.Independence
import LinkLedger.Proofs.Html.Positions
import LinkLedger.Proofs.Http.Chain
import LinkLedger.Proofs.Http.Failures
import LinkLedger.Proofs.Http.Outcome
import LinkLedger.Proofs.Http.Redirects
import LinkLedger.Proofs.Http.Success
import LinkLedger.Proofs.Index.Cursor
import LinkLedger.Proofs.Index.Faults
import LinkLedger.Proofs.Index.Journal
import LinkLedger.Proofs.Index.Ledger
import LinkLedger.Proofs.Index.Pages
import LinkLedger.Proofs.Index.WellFormed
import LinkLedger.Proofs.Index.Written
import LinkLedger.Proofs.Json.Decoding
import LinkLedger.Proofs.Json.Numerals
import LinkLedger.Proofs.Json.RoundTrip
import LinkLedger.Proofs.Json.Scattered
import LinkLedger.Proofs.Link.Absolute
import LinkLedger.Proofs.Link.DotSegments
import LinkLedger.Proofs.Link.FixedPoint
import LinkLedger.Proofs.Link.Merging
import LinkLedger.Proofs.Link.SameSite
import LinkLedger.Proofs.Link.SitePaths
import LinkLedger.Proofs.Record.Documents
import LinkLedger.Proofs.Service.Fields
import LinkLedger.Proofs.Service.Filtering
import LinkLedger.Proofs.Service.Links
import LinkLedger.Proofs.Service.Occurrences
import LinkLedger.Proofs.Service.Operations
import LinkLedger.Proofs.Service.Records
import LinkLedger.Proofs.Service.Retry
import LinkLedger.Proofs.Service.Saving
import LinkLedger.Proofs.Settings.Overlay
import LinkLedger.Proofs.Text.Composed
import LinkLedger.Proofs.Text.Tables
import LinkLedger.Proofs.Text.Utf8
import LinkLedger.Proofs.Url.Authority
import LinkLedger.Proofs.Url.Continued
import LinkLedger.Proofs.Url.Encoded
import LinkLedger.Proofs.Url.Front
import LinkLedger.Proofs.Url.Hosts
import LinkLedger.Proofs.Url.Names
import LinkLedger.Proofs.Url.Paths
import LinkLedger.Proofs.Url.Reading
import LinkLedger.Proofs.Url.Scheme
import LinkLedger.Proofs.Url.Spaces
import LinkLedger.Proofs.Url.SpacesBehind
import LinkLedger.Proofs.Url.WrittenHosts
import LinkLedger.Record.Basic
import LinkLedger.Record.Document
import LinkLedger.Service.Basic
import LinkLedger.Service.Save
import LinkLedger.Settings.Basic
import LinkLedger.Settings.Document
import LinkLedger.Settings.File
import LinkLedger.Step
import LinkLedger.Table
import LinkLedger.Text.Blank
import LinkLedger.Text.CaseFold
import LinkLedger.Text.Classes
import LinkLedger.Text.Mapping
import LinkLedger.Text.Normal
import LinkLedger.Text.NormalTable
import LinkLedger.Text.Ranges
import LinkLedger.Text.Search
import LinkLedger.Text.Utf8
import LinkLedger.Text.Visible
import LinkLedger.Timestamp
import LinkLedger.Url.Basic
import LinkLedger.Url.Host
import LinkLedger.Url.Name
import LinkLedger.Url.NameTable
import LinkLedger.Url.Parse
import LinkLedger.Url.Percent
import LinkLedger.Url.Punycode
