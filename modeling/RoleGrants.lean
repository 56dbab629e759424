import RoleGrants.Audit
import RoleGrants.Calendar.Moment
import RoleGrants.CommandLine.Help
import RoleGrants.CommandLine.Options
import RoleGrants.CommandLine.Report
import RoleGrants.CommandLine.Request
import RoleGrants.CommandLine.Run
import RoleGrants.CommandLine.Usage
import RoleGrants.Definition.Basic
import RoleGrants.Definition.Dump
import RoleGrants.Definition.Load
import RoleGrants.Definition.Read
import RoleGrants.Directory.Basic
import RoleGrants.Directory.Cluster
import RoleGrants.Directory.Config
import RoleGrants.Directory.Scripted
import RoleGrants.Directory.Static
import RoleGrants.Failure
import RoleGrants.Files.Path
import RoleGrants.Files.Tree
import RoleGrants.Json
import RoleGrants.Json.Line
import RoleGrants.Log.Line
import RoleGrants.Log.Record
import RoleGrants.Log.Settings
import RoleGrants.Main
import RoleGrants.Manifest.Output
import RoleGrants.Manifest.Validate
import RoleGrants.Number.Binary64
import RoleGrants.Number.Numeral
import RoleGrants.Number.Shortest
import RoleGrants.Proofs.CommandLine.Safety
import RoleGrants.Proofs.Resolution.Answers
import RoleGrants.Proofs.Trace.Traced
import RoleGrants.Proofs.Resolution.Audited
import RoleGrants.Proofs.Resolution.Effects
import RoleGrants.Proofs.Resolution.FirstFailure
import RoleGrants.Proofs.Resolution.Items
import RoleGrants.Proofs.Resolution.Naming
import RoleGrants.Proofs.Resolution.Objects
import RoleGrants.Proofs.Resolution.Outcomes
import RoleGrants.Proofs.Resolution.Relabelling
import RoleGrants.Proofs.Schema.Accepted
import RoleGrants.Proofs.Sorting
import RoleGrants.Proofs.Selector.Agreement
import RoleGrants.Proofs.Selector.QueryLanguage
import RoleGrants.Proofs.Selector.Rearranging
import RoleGrants.Proofs.Selector.Pieces
import RoleGrants.Redaction
import RoleGrants.Resolution.Basic
import RoleGrants.Resolution.Error
import RoleGrants.Resolution.Event
import RoleGrants.Resource.Basic
import RoleGrants.Resource.Manifest
import RoleGrants.Resource.Read
import RoleGrants.Schema.Check
import RoleGrants.Schema.Fault
import RoleGrants.Schema.Moment
import RoleGrants.Selector.Basic
import RoleGrants.Selector.Matching
import RoleGrants.Selector.Query
import RoleGrants.Sorting
import RoleGrants.Text.Base64
import RoleGrants.Text.Blank
import RoleGrants.Text.DecimalDigit
import RoleGrants.Text.Printable
import RoleGrants.Text.Quoted
import RoleGrants.Text.Similarity
import RoleGrants.Text.Utf8
import RoleGrants.Trace.Context
import RoleGrants.Trace.Resolution
import RoleGrants.Trace.TracerCache
import RoleGrants.Value
import RoleGrants.Yaml.Cursor
import RoleGrants.Yaml.Document
import RoleGrants.Yaml.Fault
import RoleGrants.Yaml.Node
import RoleGrants.Yaml.Scalar
import RoleGrants.Yaml.Stream
import RoleGrants.Yaml.Style
import RoleGrants.Yaml.Tag
import RoleGrants.Yaml.Token
import RoleGrants.Yaml.Token.Block
import RoleGrants.Yaml.Token.Plain
import RoleGrants.Yaml.Token.Property
import RoleGrants.Yaml.Token.Quoted
import RoleGrants.Yaml.Token.Scan
import RoleGrants.Yaml.Writer
import RoleGrants.Proofs.Yaml.Cursor
import RoleGrants.Proofs.Yaml.Quoted
import RoleGrants.Proofs.Yaml.Pen
import RoleGrants.Proofs.Yaml.Single
import RoleGrants.Proofs.Yaml.Double
import RoleGrants.Proofs.Yaml.Plain
import RoleGrants.Proofs.Yaml.Scanning
import RoleGrants.Proofs.Yaml.Layout
import RoleGrants.Proofs.Yaml.Writing
import RoleGrants.Proofs.Yaml.Descent
import RoleGrants.Proofs.Yaml.Composing
import RoleGrants.Proofs.Yaml.ReadBack
import RoleGrants.Proofs.Manifest.ReadBack
import RoleGrants.Proofs.Resolution.Alike
import RoleGrants.Proofs.Resolution.Need
import RoleGrants.Proofs.Definition.Normal
import RoleGrants.Proofs.Directory.Wordless
import RoleGrants.Proofs.Schema.Plain
import RoleGrants.Proofs.Schema.RoundTrip
import RoleGrants.Proofs.Schema.NormalRecord
import RoleGrants.Proofs.Definition.RoundTrip
import RoleGrants.Proofs.Resolution.Reports
import RoleGrants.Proofs.Yaml.Documents
import RoleGrants.Proofs.Files.Writing
import RoleGrants.Proofs.Manifest.Forms
import RoleGrants.Proofs.Manifest.Validity
import RoleGrants.Proofs.Directory.Connection
import RoleGrants.Proofs.Trace.History
import RoleGrants.Proofs.Redaction.Passage
import RoleGrants.Proofs.Redaction.Link
import RoleGrants.Proofs.Redaction.Secret
import RoleGrants.Proofs.Redaction.Sanitized
import RoleGrants.Proofs.Redaction.Authorization
import RoleGrants.Proofs.Manifest.Soundness
import RoleGrants.Proofs.Yaml.Splitting
import RoleGrants.Proofs.Yaml.Reading
import RoleGrants.Proofs.Yaml.Faults
import RoleGrants.Proofs.Definition.Loading
import RoleGrants.Proofs.CommandLine.Loading
import RoleGrants.Proofs.Directory.Conjunction
import RoleGrants.Proofs.Files.Folders
import RoleGrants.Proofs.Manifest.Rewriting
import RoleGrants.Proofs.Definition.LabelRows
import RoleGrants.Proofs.Redaction.Clean
import RoleGrants.Proofs.Directory.ToldReasons
