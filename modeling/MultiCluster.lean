import MultiCluster.Answers.Question
import MultiCluster.Answers.Scoped
import MultiCluster.Answers.Source
import MultiCluster.Attempt
import MultiCluster.Client.Call
import MultiCluster.Client.Fault
import MultiCluster.Client.Lookup
import MultiCluster.Command.Change
import MultiCluster.Command.Console
import MultiCluster.Command.Fault
import MultiCluster.Command.Program
import MultiCluster.Command.Run
import MultiCluster.Command.Show
import MultiCluster.CommandLine.Grammar
import MultiCluster.CommandLine.Invocation
import MultiCluster.Config
import MultiCluster.Decimal.Binary64
import MultiCluster.Decimal.Shortest
import MultiCluster.Dict
import MultiCluster.Directory
import MultiCluster.Files
import MultiCluster.History
import MultiCluster.Json.Tree
import MultiCluster.Json.Value
import MultiCluster.JsonStore
import MultiCluster.Lifecycle.Change
import MultiCluster.Lifecycle.Poll
import MultiCluster.Lifecycle.Selection
import MultiCluster.Main
import MultiCluster.Proofs.Answers.Filling
import MultiCluster.Proofs.Answers.Flattening
import MultiCluster.Proofs.Answers.Interview
import MultiCluster.Proofs.Answers.Layering
import MultiCluster.Proofs.Answers.Leaves
import MultiCluster.Proofs.Answers.Merging
import MultiCluster.Proofs.Answers.Naming
import MultiCluster.Proofs.Answers.Prompting
import MultiCluster.Proofs.Answers.Reading
import MultiCluster.Proofs.Answers.Reconciliation
import MultiCluster.Proofs.Answers.RoundTrip
import MultiCluster.Proofs.Client.Agreement
import MultiCluster.Proofs.Client.Calls
import MultiCluster.Proofs.Client.Draining
import MultiCluster.Proofs.Client.Reading
import MultiCluster.Proofs.Command.Acceptance
import MultiCluster.Proofs.Command.Agreement
import MultiCluster.Proofs.Command.Apps
import MultiCluster.Proofs.Command.Console
import MultiCluster.Proofs.Command.Deletion
import MultiCluster.Proofs.Command.Footprint
import MultiCluster.Proofs.Command.Idempotence
import MultiCluster.Proofs.Command.Installation
import MultiCluster.Proofs.Command.Paging
import MultiCluster.Proofs.Command.Precedence
import MultiCluster.Proofs.Command.Reading
import MultiCluster.Proofs.Command.Retention
import MultiCluster.Proofs.Command.Rollback
import MultiCluster.Proofs.Command.Serving
import MultiCluster.Proofs.Command.Submission
import MultiCluster.Proofs.Command.Versions
import MultiCluster.Proofs.Directory
import MultiCluster.Proofs.Except
import MultiCluster.Proofs.Faults
import MultiCluster.Proofs.History
import MultiCluster.Proofs.Keeps
import MultiCluster.Proofs.Lifecycle.Budget
import MultiCluster.Proofs.Lifecycle.Polling
import MultiCluster.Proofs.Lifecycle.Proposal
import MultiCluster.Proofs.Lifecycle.Upgrade
import MultiCluster.Proofs.Lifecycle.Versioning
import MultiCluster.Proofs.Record.Omission
import MultiCluster.Proofs.Record.Rewriting
import MultiCluster.Proofs.Record.RoundTrip
import MultiCluster.Proofs.Record.Wire
import MultiCluster.Proofs.Report.Listing
import MultiCluster.Proofs.Report.Table
import MultiCluster.Proofs.Rest.Addressing
import MultiCluster.Proofs.Rest.Events
import MultiCluster.Proofs.Rest.Replacement
import MultiCluster.Proofs.Rest.Verdict
import MultiCluster.Proofs.Scope
import MultiCluster.Proofs.Session.Agreement
import MultiCluster.Proofs.Session.Containment
import MultiCluster.Proofs.Session.Memory
import MultiCluster.Proofs.Session.Reading
import MultiCluster.Proofs.Session.Steady
import MultiCluster.Proofs.Session.Versions
import MultiCluster.Proofs.Session.WellFormed
import MultiCluster.Proofs.Store.History
import MultiCluster.Proofs.Store.Listing
import MultiCluster.Proofs.Store.Lookup
import MultiCluster.Proofs.Store.Matching
import MultiCluster.Proofs.Store.Numbering
import MultiCluster.Proofs.Store.Pages
import MultiCluster.Proofs.Store.Reachable
import MultiCluster.Proofs.Store.Reading
import MultiCluster.Proofs.Store.Refinement
import MultiCluster.Proofs.Store.Scripts
import MultiCluster.Proofs.Store.Snapshot
import MultiCluster.Proofs.Store.Traffic
import MultiCluster.Proofs.Store.Written
import MultiCluster.Proofs.Store.Writing
import MultiCluster.Proofs.Text.Blank
import MultiCluster.Proofs.Text.Utf8
import MultiCluster.Proofs.Time.Timestamp
import MultiCluster.Proofs.Url.Path
import MultiCluster.Proofs.Url.Percent
import MultiCluster.Proofs.Url.Reading
import MultiCluster.Proofs.Version.Lenient
import MultiCluster.Proofs.Version.Order
import MultiCluster.Proofs.Version.Sorting
import MultiCluster.Proofs.Version.Strict
import MultiCluster.Record.ByKind
import MultiCluster.Record.Types
import MultiCluster.Record.Wire
import MultiCluster.Report.Listing
import MultiCluster.Report.Table
import MultiCluster.Rest.Client
import MultiCluster.Rest.Exchange
import MultiCluster.Rest.Message
import MultiCluster.Scope
import MultiCluster.Session
import MultiCluster.Store
import MultiCluster.Text.Base64
import MultiCluster.Text.Blank
import MultiCluster.Text.Cut
import MultiCluster.Text.Plain
import MultiCluster.Text.Quoted
import MultiCluster.Text.Utf8
import MultiCluster.Time.Instant
import MultiCluster.Toml.Document
import MultiCluster.Toml.Scalar
import MultiCluster.Url.Address
import MultiCluster.Url.Domain
import MultiCluster.Url.Host
import MultiCluster.Url.Path
import MultiCluster.Url.Percent
import MultiCluster.Version.Semantic
import MultiCluster.Yaml.Document
import MultiCluster.Yaml.Token
import MultiCluster.Yaml.Value
