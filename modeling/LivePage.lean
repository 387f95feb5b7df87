/-
Pages described by documents: reading, checking, rendering and running them.
-/
import LivePage.Cache
import LivePage.Dispatch
import LivePage.Document.Basic
import LivePage.Document.Inspection
import LivePage.Document.Issue
import LivePage.Document.Location
import LivePage.Document.Reader
import LivePage.Document.Validation
import LivePage.Document.Vocabulary
import LivePage.Document.Writer
import LivePage.Double.Basic
import LivePage.Double.Layout
import LivePage.Double.Numeral
import LivePage.Double.Shortest
import LivePage.Host
import LivePage.Http.Client
import LivePage.Http.ContentType
import LivePage.Http.Headers
import LivePage.Identifier
import LivePage.Json.Error
import LivePage.Json.Limits
import LivePage.Json.Reader
import LivePage.Json.Repair
import LivePage.Json.Repair.Content
import LivePage.Json.Repair.Ending
import LivePage.Json.Repair.Lookahead
import LivePage.Json.Repair.Text
import LivePage.Json.Repair.Value
import LivePage.Json.Repair.Word
import LivePage.Json.Writer
import LivePage.Loader
import LivePage.Page.Css
import LivePage.Page.Draft
import LivePage.Page.Html
import LivePage.Page.Node
import LivePage.Page.Render
import LivePage.Page.Sketch
import LivePage.Playground
import LivePage.Proofs.Acceptance
import LivePage.Proofs.Activation
import LivePage.Proofs.CacheRuns
import LivePage.Proofs.Caching
import LivePage.Proofs.Channels
import LivePage.Proofs.CompactText
import LivePage.Proofs.Composition
import LivePage.Proofs.Confinement
import LivePage.Proofs.DepthLimits
import LivePage.Proofs.Dialects
import LivePage.Proofs.Display
import LivePage.Proofs.DoubleRange
import LivePage.Proofs.Editing
import LivePage.Proofs.Encoding
import LivePage.Proofs.Grammar
import LivePage.Proofs.Inclusion
import LivePage.Proofs.Inputs
import LivePage.Proofs.Inspection
import LivePage.Proofs.JsonReading
import LivePage.Proofs.JsonWriting
import LivePage.Proofs.Layering
import LivePage.Proofs.Ledger
import LivePage.Proofs.Legibility
import LivePage.Proofs.Loading
import LivePage.Proofs.Locality
import LivePage.Proofs.LongIntegers
import LivePage.Proofs.Markup
import LivePage.Proofs.Mirroring
import LivePage.Proofs.Moves
import LivePage.Proofs.Nesting
import LivePage.Proofs.Numerals
import LivePage.Proofs.Outcomes
import LivePage.Proofs.PageReading
import LivePage.Proofs.Payloads
import LivePage.Proofs.Places
import LivePage.Proofs.Quoting
import LivePage.Proofs.Reaching
import LivePage.Proofs.ReadBack
import LivePage.Proofs.Reading
import LivePage.Proofs.Recency
import LivePage.Proofs.Redeclaration
import LivePage.Proofs.Refusals
import LivePage.Proofs.Remounting
import LivePage.Proofs.Renaming
import LivePage.Proofs.Replay
import LivePage.Proofs.Reporting
import LivePage.Proofs.Responses
import LivePage.Proofs.Restriction
import LivePage.Proofs.Rewriting
import LivePage.Proofs.Rounding
import LivePage.Proofs.Seeding
import LivePage.Proofs.ShortestDigits
import LivePage.Proofs.Signposts
import LivePage.Proofs.Sites
import LivePage.Proofs.StyleNames
import LivePage.Proofs.Updates
import LivePage.Proofs.Upkeep
import LivePage.Proofs.ValueInduction
import LivePage.Proofs.Words
import LivePage.Proofs.Writings
import LivePage.Report
import LivePage.Resolution
import LivePage.Services
import LivePage.Session
import LivePage.Settings
import LivePage.Store
import LivePage.Template
import LivePage.Text.Blank
import LivePage.Text.Case
import LivePage.Text.Charset
import LivePage.Text.Charset.Chinese
import LivePage.Text.Charset.Japanese
import LivePage.Text.Charset.Korean
import LivePage.Text.Charset.Scan
import LivePage.Text.Charset.Switching
import LivePage.Text.Charset.Unicode
import LivePage.Text.CodePage.Basic
import LivePage.Text.CodePage.Extended
import LivePage.Text.CodePage.Graphic
import LivePage.Text.CodePage.Whole
import LivePage.Text.Digest
import LivePage.Text.Digit
import LivePage.Text.Grid.Basic
import LivePage.Text.Grid.Hangul
import LivePage.Text.Grid.Kanji
import LivePage.Text.Grid.SimplifiedHanzi
import LivePage.Text.Grid.SupplementaryKanji
import LivePage.Text.Grid.TraditionalHanzi
import LivePage.Text.Letter
import LivePage.Text.Printable
import LivePage.Text.Ranges
import LivePage.Text.Raw
import LivePage.Text.Surrogate
import LivePage.Text.Textual
import LivePage.Text.Utf8
import LivePage.Value.Basic
import LivePage.Value.Depth
import LivePage.Value.Equality
import LivePage.Value.Literal
import LivePage.Value.Members
import LivePage.Value.Misuse
import LivePage.Viewing
