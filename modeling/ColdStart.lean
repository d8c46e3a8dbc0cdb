import ColdStart.Number.Binary64
import ColdStart.Text.Ranges
import ColdStart.Text.Blank
import ColdStart.Text.Digits
import ColdStart.Text.Printable
import ColdStart.Text.WordChars
import ColdStart.Text.LetterCase
import ColdStart.Number.Fault
import ColdStart.Number.Quantity
import ColdStart.Number.Reading
import ColdStart.Number.Places
import ColdStart.Number.Shortest
import ColdStart.Text.Quoted
import ColdStart.Text.Columns
import ColdStart.Text.Escape
import ColdStart.Series
import ColdStart.Percentage
import ColdStart.Text.Identifier
import ColdStart.Pattern.CharSet
import ColdStart.Pattern.Fault
import ColdStart.Pattern.Syntax
import ColdStart.Pattern.Matcher
import ColdStart.Pattern.Source
import ColdStart.Pattern.Escape
import ColdStart.Pattern.Parser
import ColdStart.Mode
import ColdStart.Selection
import ColdStart.Matrix
import ColdStart.Text.Search
import ColdStart.Shell.Words
import ColdStart.Backend
import ColdStart.Capture
import ColdStart.Xml.Chars
import ColdStart.Xml.Reference
import ColdStart.Xml.Token
import ColdStart.Xml.Node
import ColdStart.Xml.Namespace
import ColdStart.Xml.Reader
import ColdStart.Document.FailureSet
import ColdStart.Document.Record
import ColdStart.Document.Writer
import ColdStart.Document.Reader
import ColdStart.Number.Normal
import ColdStart.Report.Statistics
import ColdStart.Report.RankSum
import ColdStart.Report.Significance
import ColdStart.Report.Summary
import ColdStart.Report.Failures
import ColdStart.Report.Page
import ColdStart.Text.Fields
import ColdStart.Text.Utf8
import ColdStart.Files.Path
import ColdStart.Files.Tree
import ColdStart.Child
import ColdStart.Session
import ColdStart.Settings
import ColdStart.Campaign
import ColdStart.Workspace
import ColdStart.Moment
import ColdStart.Benchmark
import ColdStart.Analysis
import ColdStart.Options.Declaration
import ColdStart.Options.Reading
import ColdStart.Host
import ColdStart.Invocation
import ColdStart.Main
import ColdStart.Proofs.FailureSet
import ColdStart.Proofs.Traversal
import ColdStart.Proofs.Document.Acceptance
import ColdStart.Proofs.Document.Printing
import ColdStart.Proofs.Document.RoundTrip
import ColdStart.Proofs.Campaign.Accounting
import ColdStart.Proofs.Campaign.Documents
import ColdStart.Proofs.Capture
import ColdStart.Proofs.Capture.Identifier
import ColdStart.Proofs.Campaign.Discarded
import ColdStart.Proofs.Files.Leaving
import ColdStart.Proofs.Invocation.Quiet
import ColdStart.Proofs.Files.Naming
import ColdStart.Proofs.Invocation.Dry
import ColdStart.Proofs.Number.Range
import ColdStart.Proofs.Report.Statistics
import ColdStart.Proofs.Report.Range
import ColdStart.Proofs.Report.Aggregation
import ColdStart.Proofs.Percentage
import ColdStart.Proofs.Series.Deviation
import ColdStart.Proofs.Invocation.Ending
import ColdStart.Proofs.Child
import ColdStart.Proofs.Report.Reordering
import ColdStart.Proofs.Report.Summary
import ColdStart.Proofs.Number.Places
import ColdStart.Proofs.Report.Markup
import ColdStart.Proofs.Report.Page
import ColdStart.Proofs.Selection
import ColdStart.Proofs.Report.Failures
import ColdStart.Proofs.Files.Spelling
import ColdStart.Proofs.Invocation.Reanalysis
import ColdStart.Proofs.Report.Tags
import ColdStart.Proofs.Report.PageTags
import ColdStart.Proofs.Report.Renaming
import ColdStart.Proofs.Series.Intake
import ColdStart.Proofs.Series.Consistency
import ColdStart.Proofs.Report.Shares
import ColdStart.Proofs.Pattern.Literal
import ColdStart.Proofs.Selection.Plain
import ColdStart.Proofs.Series.Phase
import ColdStart.Proofs.Number.Numeral
import ColdStart.Proofs.Invocation.Refusal
import ColdStart.Proofs.Number.Arithmetic
import ColdStart.Proofs.Report.RankSum
import ColdStart.Proofs.Report.Comparison
import ColdStart.Proofs.Expansion
import ColdStart.Proofs.Artifact
import ColdStart.Proofs.Selection.Lookup
import ColdStart.Proofs.Campaign.Limit
import ColdStart.Proofs.Shell.Words
import ColdStart.Proofs.Campaign.Logging
import ColdStart.Proofs.Invocation.Course
import ColdStart.Proofs.Invocation.Selecting
import ColdStart.Proofs.Invocation.Commands
