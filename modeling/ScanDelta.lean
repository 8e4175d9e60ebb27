import ScanDelta.Alert.Basic
import ScanDelta.Alert.Message
import ScanDelta.Alert.Set
import ScanDelta.Command.Delivery
import ScanDelta.Command.Invocation
import ScanDelta.Command.Options
import ScanDelta.Command.Plan
import ScanDelta.Command.Run
import ScanDelta.Command.Usage
import ScanDelta.Config
import ScanDelta.Decimal.Binary64
import ScanDelta.Decimal.Layout
import ScanDelta.Decimal.Shortest
import ScanDelta.Decimal.Unsigned
import ScanDelta.Failure
import ScanDelta.Files.Disk
import ScanDelta.Files.Path
import ScanDelta.Files.Search
import ScanDelta.Http.Basic
import ScanDelta.Http.Url.Basic
import ScanDelta.Http.Url.Domain
import ScanDelta.Http.Url.DomainCharacter
import ScanDelta.Http.Url.Host
import ScanDelta.Http.Url.Parser
import ScanDelta.Http.Url.Percent
import ScanDelta.Http.Url.Punycode
import ScanDelta.Journal
import ScanDelta.Json.Basic
import ScanDelta.Json.Parser
import ScanDelta.Json.Printer
import ScanDelta.Level
import ScanDelta.Main
import ScanDelta.Outcome
import ScanDelta.Proofs.Alert.Diff
import ScanDelta.Proofs.Alert.Identities
import ScanDelta.Proofs.Alert.Lookup
import ScanDelta.Proofs.Alert.Message
import ScanDelta.Proofs.Alert.Placeholder
import ScanDelta.Proofs.Alert.Tally
import ScanDelta.Proofs.Alert.Unlocated
import ScanDelta.Proofs.Alert.WellFormed
import ScanDelta.Proofs.Command.Check
import ScanDelta.Proofs.Command.Delivery
import ScanDelta.Proofs.Command.Logging
import ScanDelta.Proofs.Command.Plan
import ScanDelta.Proofs.Command.Secrecy
import ScanDelta.Proofs.Config
import ScanDelta.Proofs.Decimal.Digits
import ScanDelta.Proofs.Files.Ancestors
import ScanDelta.Proofs.Files.Below
import ScanDelta.Proofs.Files.Change
import ScanDelta.Proofs.Files.Listing
import ScanDelta.Proofs.Files.Removal
import ScanDelta.Proofs.Files.Resolution
import ScanDelta.Proofs.Files.Search
import ScanDelta.Proofs.Files.Tree
import ScanDelta.Proofs.Journal
import ScanDelta.Proofs.Journal.History
import ScanDelta.Proofs.Json.Candidates
import ScanDelta.Proofs.Json.Compact
import ScanDelta.Proofs.Json.Members
import ScanDelta.Proofs.Json.Path
import ScanDelta.Proofs.Json.RoundTrip
import ScanDelta.Proofs.Level
import ScanDelta.Proofs.Level.Names
import ScanDelta.Proofs.Outcome
import ScanDelta.Proofs.Reconcile
import ScanDelta.Proofs.Remote.Client
import ScanDelta.Proofs.Remote.Comparison
import ScanDelta.Proofs.Remote.DisplayData
import ScanDelta.Proofs.Remote.Fields
import ScanDelta.Proofs.Remote.KeyData
import ScanDelta.Proofs.Remote.Listing
import ScanDelta.Proofs.Remote.Metadata
import ScanDelta.Proofs.Remote.OwnLines
import ScanDelta.Proofs.Remote.Pages
import ScanDelta.Proofs.Remote.PullRequest
import ScanDelta.Proofs.Remote.Questions
import ScanDelta.Proofs.Remote.RefKind
import ScanDelta.Proofs.Remote.Refs
import ScanDelta.Proofs.Remote.Reordering
import ScanDelta.Proofs.Remote.Repository
import ScanDelta.Proofs.Remote.Secrecy
import ScanDelta.Proofs.Remote.Sections
import ScanDelta.Proofs.Remote.Steps
import ScanDelta.Proofs.Report.Items
import ScanDelta.Proofs.Report.Layout
import ScanDelta.Proofs.Report.Lines
import ScanDelta.Proofs.Report.Reading
import ScanDelta.Proofs.Report.Record
import ScanDelta.Proofs.Report.StepOutputs
import ScanDelta.Proofs.Report.Views
import ScanDelta.Proofs.Report.Visible
import ScanDelta.Proofs.Run
import ScanDelta.Proofs.Sarif.Directory
import ScanDelta.Proofs.Sarif.Document
import ScanDelta.Proofs.Sarif.Location
import ScanDelta.Proofs.Sarif.Merging
import ScanDelta.Proofs.Sarif.Records
import ScanDelta.Proofs.Sarif.Rules
import ScanDelta.Proofs.Sarif.Threshold
import ScanDelta.Proofs.Text.Lowercase
import ScanDelta.Proofs.Text.Split
import ScanDelta.Proofs.Text.Trim
import ScanDelta.Proofs.Text.Words
import ScanDelta.Reconcile
import ScanDelta.Remote.Alert
import ScanDelta.Remote.Client
import ScanDelta.Remote.Comparison
import ScanDelta.Remote.Listing
import ScanDelta.Remote.Pull
import ScanDelta.Remote.Repository
import ScanDelta.Remote.Service
import ScanDelta.Report.Console
import ScanDelta.Report.Line
import ScanDelta.Report.Markdown
import ScanDelta.Report.Record
import ScanDelta.Report.StepOutputs
import ScanDelta.Sarif.Baseline
import ScanDelta.Sarif.Document
import ScanDelta.Sarif.Location
import ScanDelta.Sarif.Result
import ScanDelta.Text.Blank
import ScanDelta.Text.CombiningClass
import ScanDelta.Text.Composition
import ScanDelta.Text.Direction
import ScanDelta.Text.Joining
import ScanDelta.Text.Lowercase
import ScanDelta.Text.Mark
import ScanDelta.Text.Quoted
import ScanDelta.Text.Split
import ScanDelta.Text.Table
import ScanDelta.Text.Terminal
import ScanDelta.Text.Unprintable
import ScanDelta.Toml.Basic
import ScanDelta.Toml.Parser
import ScanDelta.Toml.Scalar
import ScanDelta.Trace
