import TenantView.Counters
import TenantView.Document.Codec
import TenantView.Document.Envelope
import TenantView.Document.Labels
import TenantView.Document.Listing
import TenantView.Document.Record
import TenantView.Environment
import TenantView.Event
import TenantView.Files
import TenantView.Glob.Match
import TenantView.Glob.Pattern
import TenantView.Gzip.BitInput
import TenantView.Gzip.Checksum
import TenantView.Gzip.Inflate
import TenantView.Gzip.PrefixCode
import TenantView.Gzip.Stream
import TenantView.Json.Fault
import TenantView.Json.NumberReader
import TenantView.Json.Parser
import TenantView.Json.Printer
import TenantView.Json.Reader
import TenantView.Json.Skip
import TenantView.Json.TextReader
import TenantView.Json.Value
import TenantView.LabelSet
import TenantView.Matcher
import TenantView.Number.Decimal
import TenantView.Number.Double
import TenantView.Number.Shortest
import TenantView.Proofs.Document.RecordRoundTrip
import TenantView.Proofs.Document.RoundTrip
import TenantView.Proofs.Json.NumberRoundTrip
import TenantView.Proofs.Json.RoundTrip
import TenantView.Proofs.Json.TextRoundTrip
import TenantView.Proofs.Matcher.Anchoring
import TenantView.Proofs.Number.Scaling
import TenantView.Proofs.Regex.BracketLocality
import TenantView.Proofs.Regex.Closing
import TenantView.Proofs.Regex.Locality
import TenantView.Proofs.Regex.Suffix
import TenantView.Proofs.Regex.Wrapping
import TenantView.Proofs.Rewrite.Faithfulness
import TenantView.Proofs.Rewrite.Noninterference
import TenantView.Proofs.Rewrite.Stages
import TenantView.Proofs.Timestamp.RoundTrip
import TenantView.Proofs.Visibility.Erasure
import TenantView.Proofs.Visibility.Exactness
import TenantView.Regex.Basic
import TenantView.Regex.Bracket
import TenantView.Regex.Escape
import TenantView.Regex.Match
import TenantView.Regex.Modes
import TenantView.Regex.Parser
import TenantView.Regex.Size
import TenantView.Rewrite.Body
import TenantView.Rewrite.Context
import TenantView.Rewrite.Encoding
import TenantView.Rewrite.Error
import TenantView.Rewrite.Headers
import TenantView.Rewrite.Hook
import TenantView.Rewrite.Limit
import TenantView.Rewrite.Transform
import TenantView.Session
import TenantView.Settings.Basic
import TenantView.Settings.Loader
import TenantView.Settings.Reader
import TenantView.Template
import TenantView.Text.Blank
import TenantView.Text.ByteRanges
import TenantView.Text.Bytes
import TenantView.Text.Category
import TenantView.Text.CharRanges
import TenantView.Text.CharSet
import TenantView.Text.Digit
import TenantView.Text.Edges
import TenantView.Text.Escaped
import TenantView.Text.Folding
import TenantView.Text.Identifier
import TenantView.Text.Property
import TenantView.Text.PropertyName
import TenantView.Text.Quoted
import TenantView.Text.Script
import TenantView.Text.Split
import TenantView.Timestamp.Basic
import TenantView.Timestamp.Calendar
import TenantView.Timestamp.Parser
import TenantView.Timestamp.Printer
import TenantView.Visibility
import TenantView.Yaml.Base
import TenantView.Yaml.BlockScalar
import TenantView.Yaml.Cursor
import TenantView.Yaml.Document
import TenantView.Yaml.Folding
import TenantView.Yaml.Layout
import TenantView.Yaml.Lexer
import TenantView.Yaml.Node
import TenantView.Yaml.PlainScalar
import TenantView.Yaml.QuotedScalar
import TenantView.Yaml.Reading
import TenantView.Yaml.TagText
import TenantView.Yaml.Token
import TenantView.Proofs.Visibility.Absorption
import TenantView.Proofs.Rewrite.ContentEncoding
import TenantView.Proofs.Rewrite.RoundTrip
import TenantView.Proofs.Rewrite.Cascade
import TenantView.Proofs.Regex.Matching
import TenantView.Proofs.Regex.OrderedCounts
import TenantView.Proofs.Matcher.WholeValue
import TenantView.Proofs.Visibility.Agreement
import TenantView.Proofs.Rewrite.TwoViews
import TenantView.Proofs.Rewrite.Reception
import TenantView.Proofs.Rewrite.Conditions
import TenantView.Proofs.Rewrite.FirstFailure
import TenantView.Proofs.Rewrite.FixedPoint
import TenantView.Proofs.Counters.Tally
import TenantView.Proofs.Counters.Accounting
import TenantView.Proofs.Json.Derivation
import TenantView.Proofs.Rewrite.Framing
import TenantView.Proofs.Rewrite.Limits
import TenantView.Proofs.Json.Skipping
import TenantView.Proofs.Document.Agreement
import TenantView.Proofs.Rewrite.StraightReading
import TenantView.Proofs.Gzip.CanonicalCode
import TenantView.Proofs.Gzip.BlockCodes
import TenantView.Proofs.Gzip.Inflation
import TenantView.Proofs.Rewrite.Unpacking
import TenantView.Proofs.Rewrite.Preservation
import TenantView.Proofs.Visibility.PartState
import TenantView.Proofs.Template.Replacement
import TenantView.Proofs.Rewrite.ValueSets
import TenantView.Proofs.Labels.FiniteMap
import TenantView.Proofs.Labels.Decoding
import TenantView.Proofs.Labels.Histories
import TenantView.Proofs.Glob.Verbatim
import TenantView.Proofs.Matcher.PlainValue
import TenantView.Proofs.Timestamp.Digits
import TenantView.Proofs.Timestamp.Notation
import TenantView.Proofs.Timestamp.Canonical
import TenantView.Proofs.Timestamp.Calendar
import TenantView.Proofs.Document.ByName
import TenantView.Proofs.Document.Rearrangement
import TenantView.Proofs.Document.OrderIndependence
import TenantView.Proofs.Rewrite.LossReports
