import CancellationPolicy.Text.Canonical
import CancellationPolicy.Record.Basic
import CancellationPolicy.Rule.Document
import CancellationPolicy.Rule.Shipped
import CancellationPolicy.Extraction.Report
import CancellationPolicy.Settings.Lookup
import CancellationPolicy.Command.Arguments
import CancellationPolicy.Command.Run
import CancellationPolicy.Main
import CancellationPolicy.Proofs.Keyed
import CancellationPolicy.Proofs.Record.Path
import CancellationPolicy.Proofs.Record.WellFormed
import CancellationPolicy.Proofs.Record.FirstWrite
import CancellationPolicy.Proofs.Extraction.Search
import CancellationPolicy.Proofs.Rule.Order
import CancellationPolicy.Proofs.Extraction.FirstMatch
import CancellationPolicy.Proofs.Floating.Order
import CancellationPolicy.Proofs.Numeric.Nearest
import CancellationPolicy.Proofs.Span.Union
import CancellationPolicy.Proofs.Floating.Rounding
import CancellationPolicy.Proofs.Floating.Quotient
import CancellationPolicy.Proofs.Scoring.Coverage
import CancellationPolicy.Proofs.Scoring.Decision
import CancellationPolicy.Proofs.Extraction.Evidence
import CancellationPolicy.Proofs.Floating.Operations
import CancellationPolicy.Proofs.Scoring.Bucket
import CancellationPolicy.Proofs.Scoring.Growth
import CancellationPolicy.Proofs.Span.Merge
import CancellationPolicy.Proofs.Floating.Sum
import CancellationPolicy.Proofs.Scoring.Range
import CancellationPolicy.Proofs.Settings.RoundTrip
import CancellationPolicy.Proofs.Record.Outcome
import CancellationPolicy.Proofs.Extraction.Explanation
import CancellationPolicy.Proofs.Scoring.Critical
import CancellationPolicy.Proofs.Decimal.Integral
import CancellationPolicy.Proofs.Json.Entries
import CancellationPolicy.Proofs.Rule.FieldMap
import CancellationPolicy.Proofs.Record.Document
import CancellationPolicy.Proofs.Extraction.Reordering
import CancellationPolicy.Proofs.Extraction.Layout
import CancellationPolicy.Proofs.Pattern.Language
import CancellationPolicy.Proofs.Pattern.Captures
import CancellationPolicy.Proofs.Decimal.Reading
import CancellationPolicy.Proofs.Pattern.Numerals
import CancellationPolicy.Proofs.Expression
import CancellationPolicy.Proofs.Rule.Filling
import CancellationPolicy.Proofs.Extraction.Leaves
import CancellationPolicy.Proofs.Summary
import CancellationPolicy.Proofs.Extraction.Completeness
import CancellationPolicy.Proofs.Rule.Shipped
import CancellationPolicy.Proofs.Extraction.Counts
import CancellationPolicy.Proofs.Extraction.Fees
import CancellationPolicy.Proofs.Extraction.Texts
import CancellationPolicy.Proofs.Pattern.Preference
import CancellationPolicy.Proofs.Text.Phrases
import CancellationPolicy.Proofs.Command.Agreement
import CancellationPolicy.Proofs.Scoring.FilteredLength
import CancellationPolicy.Proofs.Expression.References
import CancellationPolicy.Proofs.Expression.Ceiling
import CancellationPolicy.Proofs.Record.Commute
import CancellationPolicy.Proofs.Record.Replay
import CancellationPolicy.Proofs.Extraction.FieldOrder
import CancellationPolicy.Proofs.Floating.Digits
import CancellationPolicy.Proofs.Decimal.Printing
import CancellationPolicy.Proofs.Expression.Resolved
import CancellationPolicy.Proofs.Rule.Flattening
import CancellationPolicy.Proofs.Scoring.Unweighted
import CancellationPolicy.Proofs.Command.Settings
import CancellationPolicy.Proofs.Floating.TotalOrder
import CancellationPolicy.Proofs.Scoring.HighestBucket
import CancellationPolicy.Proofs.Floating.Zero
import CancellationPolicy.Proofs.Extraction.NoEvidence
import CancellationPolicy.Proofs.Summary.FullStay
import CancellationPolicy.Proofs.Decimal.Normal
import CancellationPolicy.Proofs.Record.Scale
import CancellationPolicy.Proofs.Pattern.Form
