import Conformance.About
import Conformance.Binary64
import Conformance.Binary64.Decimal
import Conformance.Binary64.Places
import Conformance.Calendar
import Conformance.Check
import Conformance.CommandLine.Arguments
import Conformance.CommandLine.Help
import Conformance.CommandLine.Program
import Conformance.CommandLine.Run
import Conformance.Fault
import Conformance.Files.Path
import Conformance.Files.Tree
import Conformance.Json.Reader
import Conformance.Json.Writer
import Conformance.Loader
import Conformance.Logging
import Conformance.Main
import Conformance.Numeral
import Conformance.Outcome
import Conformance.Predicate
import Conformance.Readers
import Conformance.Reference
import Conformance.Regex.Matching
import Conformance.Regex.Pattern
import Conformance.Regex.Reader
import Conformance.Regex.Syntax
import Conformance.Report
import Conformance.Schema.Contract
import Conformance.Schema.Enumeration
import Conformance.Schema.Record
import Conformance.Schema.Scalar
import Conformance.Schema.Validation
import Conformance.Settings
import Conformance.Text.Base64
import Conformance.Text.Blank
import Conformance.Text.Case
import Conformance.Text.Digit
import Conformance.Text.Hex
import Conformance.Text.Printable
import Conformance.Text.Quoted
import Conformance.Text.Ranges
import Conformance.Text.Split
import Conformance.Text.Template
import Conformance.Text.Utf8
import Conformance.Text.Word
import Conformance.Text.Wrap
import Conformance.Value
import Conformance.Value.Attribute
import Conformance.Value.Equality
import Conformance.Value.Filling
import Conformance.Value.Number
import Conformance.Value.Operations
import Conformance.Value.Pattern
import Conformance.Value.Printed
import Conformance.Yaml.Cursor
import Conformance.Yaml.Document
import Conformance.Yaml.Grammar
import Conformance.Yaml.Graph
import Conformance.Yaml.Implicit
import Conformance.Yaml.Lexer
import Conformance.Yaml.Meaning
import Conformance.Yaml.Scalar.Block
import Conformance.Yaml.Scalar.Plain
import Conformance.Yaml.Scalar.Quoted
import Conformance.Yaml.Timestamp
import Conformance.Yaml.Token
import Conformance.Proofs.Outcome
import Conformance.Proofs.Schema.Step
import Conformance.Proofs.Schema.Trace
import Conformance.Proofs.Schema.Contract
import Conformance.Proofs.Schema.Scalar
import Conformance.Proofs.Value.Keys
import Conformance.Proofs.Schema.Container
import Conformance.Proofs.Schema.Totality
import Conformance.Proofs.Value.Equality
import Conformance.Proofs.Schema.Acceptance
import Conformance.Proofs.Schema.Relaxation
import Conformance.Proofs.Schema.Coverage
import Conformance.Proofs.Schema.Normal
import Conformance.Proofs.Loader.History
import Conformance.Proofs.Binary64.Exact
import Conformance.Proofs.Value.Equivalence
import Conformance.Proofs.Schema.Agreement
import Conformance.Proofs.Yaml.Stop
import Conformance.Proofs.Yaml.Token
import Conformance.Proofs.Yaml.Lexer
import Conformance.Proofs.Yaml.Grammar
import Conformance.Proofs.Yaml.Meaning
import Conformance.Proofs.Yaml.Document
import Conformance.Proofs.Json.Reader
import Conformance.Proofs.Readers
import Conformance.Proofs.Loader.Escape
import Conformance.Proofs.Check.Independence
import Conformance.Proofs.Json.Atom
import Conformance.Proofs.Json.RoundTrip
import Conformance.Proofs.Report.RoundTrip
import Conformance.Proofs.Report.Verdicts
import Conformance.Proofs.Check.Search
import Conformance.Proofs.CommandLine.Course
import Conformance.Proofs.CommandLine.Status
import Conformance.Proofs.Logging.Records
import Conformance.Proofs.Logging.Routing
import Conformance.Proofs.CommandLine.Streams
import Conformance.Proofs.Value.Extended
import Conformance.Proofs.Schema.Number
import Conformance.Proofs.CommandLine.Malformed
import Conformance.Proofs.Value.Depth
import Conformance.Proofs.Yaml.Settle
import Conformance.Proofs.Yaml.Cycle
import Conformance.Proofs.Schema.Depth
import Conformance.Proofs.Value.Data
import Conformance.Proofs.Schema.Enumeration
import Conformance.Proofs.Schema.Reach
import Conformance.Proofs.Schema.Calls
import Conformance.Proofs.Schema.Flags
import Conformance.Proofs.Schema.Misfit
import Conformance.Proofs.Files.Place
import Conformance.Proofs.Check.Documents
import Conformance.Proofs.Check.Union
import Conformance.Proofs.Check.Notation
import Conformance.Proofs.Reference
import Conformance.Proofs.CommandLine.Refused
import Conformance.Proofs.Logging.Reconfiguration
import Conformance.Proofs.Report.Annotations
import Conformance.Proofs.Value.Sorting
import Conformance.Proofs.Schema.Matcher
import Conformance.Proofs.Schema.Names
import Conformance.Proofs.Logging.Violations
