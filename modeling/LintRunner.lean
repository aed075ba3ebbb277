import LintRunner.Adapter
import LintRunner.Capture
import LintRunner.Catalogue
import LintRunner.Checked
import LintRunner.Choice
import LintRunner.Cli.Arguments
import LintRunner.Cli.Session
import LintRunner.Config.Notation
import LintRunner.Config.Schema
import LintRunner.Config.Source
import LintRunner.Console
import LintRunner.Decimal.Shortest
import LintRunner.Diagnostic
import LintRunner.Directory
import LintRunner.Failure
import LintRunner.Format.Matcher
import LintRunner.Format.Source
import LintRunner.Format.Token
import LintRunner.Issue
import LintRunner.Json.Reader
import LintRunner.Json.Tree
import LintRunner.Language
import LintRunner.Listing
import LintRunner.Main
import LintRunner.Markup
import LintRunner.Markup.Color
import LintRunner.Markup.Style
import LintRunner.Ordered
import LintRunner.Path
import LintRunner.Policy
import LintRunner.Proofs.Adapter.Command
import LintRunner.Proofs.Capture.Contract
import LintRunner.Proofs.Capture.Lines
import LintRunner.Proofs.Catalogue.Lines
import LintRunner.Proofs.Catalogue.Reading
import LintRunner.Proofs.Cli.Detection
import LintRunner.Proofs.Cli.Lint
import LintRunner.Proofs.Cli.Output
import LintRunner.Proofs.Cli.Tables
import LintRunner.Proofs.Config.Failures
import LintRunner.Proofs.Config.Keys
import LintRunner.Proofs.Config.Placeholders
import LintRunner.Proofs.Config.Registry
import LintRunner.Proofs.Config.Sources
import LintRunner.Proofs.Config.Writing
import LintRunner.Proofs.Format.Acceptance
import LintRunner.Proofs.Format.Compilation
import LintRunner.Proofs.Format.Conformance
import LintRunner.Proofs.Format.Extraction
import LintRunner.Proofs.Format.Guards
import LintRunner.Proofs.Format.Layout
import LintRunner.Proofs.Format.Positions
import LintRunner.Proofs.Format.Refusal
import LintRunner.Proofs.Format.Route
import LintRunner.Proofs.Format.Segment
import LintRunner.Proofs.Format.Slot
import LintRunner.Proofs.Format.Soundness
import LintRunner.Proofs.Format.Words
import LintRunner.Proofs.Json
import LintRunner.Proofs.Language
import LintRunner.Proofs.Listing.Decoding
import LintRunner.Proofs.Listing.Grouping
import LintRunner.Proofs.Listing.Lossless
import LintRunner.Proofs.Markup
import LintRunner.Proofs.Ordered
import LintRunner.Proofs.Path
import LintRunner.Proofs.Regex.Containment
import LintRunner.Proofs.Regex.Embedding
import LintRunner.Proofs.Regex.Fragment
import LintRunner.Proofs.Regex.Frame
import LintRunner.Proofs.Regex.Language
import LintRunner.Proofs.Regex.Locality
import LintRunner.Proofs.Regex.Movement
import LintRunner.Proofs.Regex.Nesting
import LintRunner.Proofs.Regex.Outcomes
import LintRunner.Proofs.Regex.Progress
import LintRunner.Proofs.Regex.Reading
import LintRunner.Proofs.Regex.Width
import LintRunner.Proofs.Registry.Coherence
import LintRunner.Proofs.Registry.Overlay
import LintRunner.Proofs.Results
import LintRunner.Proofs.Run.Agreement
import LintRunner.Proofs.Run.Diagnostics
import LintRunner.Proofs.Run.Hooks
import LintRunner.Proofs.Run.Laziness
import LintRunner.Proofs.Run.Modes
import LintRunner.Proofs.Run.Policies
import LintRunner.Proofs.Severity.Classification
import LintRunner.Proofs.Severity.Labels
import LintRunner.Proofs.Table
import LintRunner.Proofs.Text.Ascii
import LintRunner.Proofs.Text.Case
import LintRunner.Proofs.Text.Decoding
import LintRunner.Proofs.Text.Digits
import LintRunner.Proofs.Text.Lines
import LintRunner.Proofs.Text.Words
import LintRunner.Regex.CharSet
import LintRunner.Regex.Construct
import LintRunner.Regex.Node
import LintRunner.Regex.Reader
import LintRunner.Regex.Search
import LintRunner.Regex.Symbol
import LintRunner.Registry
import LintRunner.Report
import LintRunner.Report.Check
import LintRunner.Run
import LintRunner.Run.Cursor
import LintRunner.Run.Stream
import LintRunner.Severity
import LintRunner.Table
import LintRunner.Table.Narrow
import LintRunner.Text.Case
import LintRunner.Text.CharClass
import LintRunner.Text.Integer
import LintRunner.Text.Lines
import LintRunner.Text.Quoted
import LintRunner.Text.Table.Case
import LintRunner.Text.Table.Digit
import LintRunner.Text.Table.Identifier
import LintRunner.Text.Table.Printable
import LintRunner.Text.Table.Width
import LintRunner.Text.Table.Word
import LintRunner.Text.Utf8
import LintRunner.Text.Width
import LintRunner.Text.Words
import LintRunner.Text.Wrap
import LintRunner.Toml.Document
import LintRunner.Toml.Scalar
import LintRunner.Value
