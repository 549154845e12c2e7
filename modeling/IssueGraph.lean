import IssueGraph.Blocking.Chain
import IssueGraph.Blocking.Json
import IssueGraph.Blocking.Live
import IssueGraph.Board
import IssueGraph.Collection
import IssueGraph.CommandLine.Invocation
import IssueGraph.CommandLine.Level
import IssueGraph.CommandLine.Run
import IssueGraph.CommandLine.Usage
import IssueGraph.CommandLine.Value
import IssueGraph.Config.Basic
import IssueGraph.Config.Json
import IssueGraph.Config.Yaml
import IssueGraph.Decimal.Binary64
import IssueGraph.Decimal.Format
import IssueGraph.Decimal.Shortest
import IssueGraph.Dependency
import IssueGraph.Failure
import IssueGraph.Files.Basic
import IssueGraph.Files.Directory
import IssueGraph.Fingerprint
import IssueGraph.Graph.Basic
import IssueGraph.Graph.Build
import IssueGraph.Graph.Json
import IssueGraph.Graph.Listing
import IssueGraph.Issue
import IssueGraph.Issue.Json
import IssueGraph.Json.Cause
import IssueGraph.Json.Literal
import IssueGraph.Json.Reader
import IssueGraph.Json.Shape.Basic
import IssueGraph.Json.Shape.Text
import IssueGraph.Json.Shape.Value
import IssueGraph.Json.Skip
import IssueGraph.Json.Text
import IssueGraph.Json.Value
import IssueGraph.Log
import IssueGraph.Main
import IssueGraph.Memo.Analyses
import IssueGraph.Memo.Basic
import IssueGraph.Proofs.Blocking.Chain
import IssueGraph.Proofs.Blocking.Live
import IssueGraph.Proofs.Blocking.Pairs
import IssueGraph.Proofs.Blocking.Ranking
import IssueGraph.Proofs.Blocking.Visits
import IssueGraph.Proofs.Blocking.Walk
import IssueGraph.Proofs.Board
import IssueGraph.Proofs.Collection
import IssueGraph.Proofs.Collection.Account
import IssueGraph.Proofs.Collection.Insertion
import IssueGraph.Proofs.Collection.Priority
import IssueGraph.Proofs.CommandLine.Agreement
import IssueGraph.Proofs.CommandLine.Failure
import IssueGraph.Proofs.CommandLine.Listing
import IssueGraph.Proofs.Decimal.Binary64
import IssueGraph.Proofs.Decimal.Shortest
import IssueGraph.Proofs.Distance
import IssueGraph.Proofs.Fingerprint
import IssueGraph.Proofs.Graph.BlockedCount
import IssueGraph.Proofs.Graph.Chain
import IssueGraph.Proofs.Graph.Identifier
import IssueGraph.Proofs.Graph.Json
import IssueGraph.Proofs.Graph.Layout
import IssueGraph.Proofs.Graph.LiveBlocker
import IssueGraph.Proofs.Graph.Orphans
import IssueGraph.Proofs.Graph.Ready
import IssueGraph.Proofs.Graph.References
import IssueGraph.Proofs.Graph.Reordering
import IssueGraph.Proofs.Graph.RoundTrip
import IssueGraph.Proofs.Graph.Structure
import IssueGraph.Proofs.Graph.TopBlockers
import IssueGraph.Proofs.Graph.TypeFilter
import IssueGraph.Proofs.Json.Compact
import IssueGraph.Proofs.Json.Double
import IssueGraph.Proofs.Json.Integer
import IssueGraph.Proofs.Json.Lenient
import IssueGraph.Proofs.Json.Literal
import IssueGraph.Proofs.Json.Pretty
import IssueGraph.Proofs.Json.Reader
import IssueGraph.Proofs.Json.Record
import IssueGraph.Proofs.Json.Shape
import IssueGraph.Proofs.Json.Skip
import IssueGraph.Proofs.Json.Spelling
import IssueGraph.Proofs.Json.Written
import IssueGraph.Proofs.List
import IssueGraph.Proofs.Memo
import IssueGraph.Proofs.Memo.Recency
import IssueGraph.Proofs.Path
import IssueGraph.Proofs.Report.Colors
import IssueGraph.Proofs.Search
import IssueGraph.Proofs.Search.Running
import IssueGraph.Proofs.SortedMap
import IssueGraph.Proofs.Text.Lines
import IssueGraph.Proofs.Text.Utf8
import IssueGraph.Proofs.Text.Wrap
import IssueGraph.Report.Finding
import IssueGraph.Report.Settings
import IssueGraph.Report.Style
import IssueGraph.Report.Text
import IssueGraph.Search
import IssueGraph.Sha256
import IssueGraph.SortedSet
import IssueGraph.Text.Alphanumeric
import IssueGraph.Text.Basic
import IssueGraph.Text.Columns
import IssueGraph.Text.Combining
import IssueGraph.Text.LineBreak
import IssueGraph.Text.LineClass
import IssueGraph.Text.Quoted
import IssueGraph.Text.Utf8
import IssueGraph.Text.Wrap
import IssueGraph.Yaml.Document
import IssueGraph.Yaml.Event
import IssueGraph.Yaml.Fault
import IssueGraph.Yaml.Resolve
import IssueGraph.Yaml.Scalar
import IssueGraph.Yaml.Source
import IssueGraph.Yaml.Tag
import IssueGraph.Yaml.Token
