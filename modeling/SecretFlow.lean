import SecretFlow.Automaton.Basic
import SecretFlow.Automaton.ByteRanges
import SecretFlow.Automaton.CharSet
import SecretFlow.Automaton.Compile
import SecretFlow.Automaton.Search
import SecretFlow.Automaton.Words
import SecretFlow.Cluster
import SecretFlow.Command.Arguments
import SecretFlow.Command.Help
import SecretFlow.Command.Request
import SecretFlow.Command.Run
import SecretFlow.Config.Basic
import SecretFlow.Config.Failure
import SecretFlow.Config.Reading
import SecretFlow.Config.Starter
import SecretFlow.Decimal.Binary64
import SecretFlow.Decimal.Shortest
import SecretFlow.Diagnostic
import SecretFlow.Digest.Sha256
import SecretFlow.Domain.Direction
import SecretFlow.Domain.Label
import SecretFlow.Domain.Mapping
import SecretFlow.Domain.Punycode
import SecretFlow.Files.Tree
import SecretFlow.Finding
import SecretFlow.Flow.Build
import SecretFlow.Flow.Container
import SecretFlow.Flow.Lookup
import SecretFlow.Flow.Place
import SecretFlow.Flow.Scope
import SecretFlow.Flow.Script
import SecretFlow.Flow.Step
import SecretFlow.Glob
import SecretFlow.Graph.Basic
import SecretFlow.Graph.Drawing
import SecretFlow.Graph.Indexed
import SecretFlow.Graph.Node
import SecretFlow.Identifier
import SecretFlow.Ignore.Layer
import SecretFlow.Ignore.Pattern
import SecretFlow.Ignore.Rule
import SecretFlow.Json
import SecretFlow.Leak.Mining
import SecretFlow.Leak.Path
import SecretFlow.Main
import SecretFlow.Manifest.Basic
import SecretFlow.Manifest.Discovery
import SecretFlow.Manifest.File
import SecretFlow.Manifest.Loading
import SecretFlow.Manifest.Reading
import SecretFlow.Manifest.Workload
import SecretFlow.Path
import SecretFlow.Pattern.Basic
import SecretFlow.Pattern.Boundary
import SecretFlow.Pattern.Error
import SecretFlow.Pattern.Flags
import SecretFlow.Pattern.Meaning
import SecretFlow.Pattern.Reader
import SecretFlow.Pattern.Reader.Class
import SecretFlow.Pattern.Reader.Escape
import SecretFlow.Pattern.Reader.Space
import SecretFlow.Pattern.Simplify
import SecretFlow.Pattern.Written
import SecretFlow.Policy
import SecretFlow.Proofs.DegradedUnits
import SecretFlow.Proofs.DirectLeaks
import SecretFlow.Proofs.GraphStore
import SecretFlow.Proofs.GroundedFlow
import SecretFlow.Proofs.GroundedGraphs
import SecretFlow.Proofs.GroundedSteps
import SecretFlow.Proofs.KeptBindings
import SecretFlow.Proofs.LeakPaths
import SecretFlow.Proofs.Liveness
import SecretFlow.Proofs.MiningSteps
import SecretFlow.Proofs.NodeNames
import SecretFlow.Proofs.Provenance
import SecretFlow.Report.Basic
import SecretFlow.Report.Console
import SecretFlow.Report.Format
import SecretFlow.Report.Json
import SecretFlow.Report.Sarif
import SecretFlow.Report.Stamp
import SecretFlow.Scan
import SecretFlow.Script.Reference
import SecretFlow.Script.Source
import SecretFlow.Shell.LogicalLine
import SecretFlow.Shell.Quoting
import SecretFlow.Shell.Segment
import SecretFlow.Shell.Statement
import SecretFlow.Shell.Substitution
import SecretFlow.Shell.Variable
import SecretFlow.Sink.Kind
import SecretFlow.Sink.Rule
import SecretFlow.Text.Blank
import SecretFlow.Text.Search
import SecretFlow.Text.CharRanges
import SecretFlow.Text.CharRanges.Algebra
import SecretFlow.Text.Composed
import SecretFlow.Text.Fold
import SecretFlow.Text.Normal
import SecretFlow.Text.Printable
import SecretFlow.Text.Property
import SecretFlow.Text.Property.Age
import SecretFlow.Text.Property.Binary
import SecretFlow.Text.Property.Break
import SecretFlow.Text.Property.Category
import SecretFlow.Text.Property.Script
import SecretFlow.Text.Property.ScriptExtension
import SecretFlow.Text.Quoted
import SecretFlow.Text.Table
import SecretFlow.Text.Utf8
import SecretFlow.Text.Word
import SecretFlow.Toml.Document
import SecretFlow.Toml.Scalar
import SecretFlow.Toml.Value
import SecretFlow.Url.Address
import SecretFlow.Url.Host
import SecretFlow.Url.Domain
import SecretFlow.Yaml.Cursor
import SecretFlow.Yaml.Document
import SecretFlow.Yaml.Error
import SecretFlow.Yaml.Event
import SecretFlow.Yaml.Plain
import SecretFlow.Yaml.Scalar
import SecretFlow.Yaml.Tag
import SecretFlow.Yaml.Token
import SecretFlow.Yaml.Value
import SecretFlow.Proofs.LivePart
import SecretFlow.Proofs.StrongestFirst
import SecretFlow.Proofs.TypedGraphs
import SecretFlow.Proofs.ClosedParts
import SecretFlow.Proofs.SeparateContainers
import SecretFlow.Proofs.HonestLimits
import SecretFlow.Proofs.Declarations
import SecretFlow.Proofs.MiningRuns
import SecretFlow.Proofs.UnseenScripts
import SecretFlow.Proofs.ScanReports
import SecretFlow.Proofs.DocumentAccounts
import SecretFlow.Proofs.ScriptVisits
import SecretFlow.Proofs.SecretValues
import SecretFlow.Proofs.ExportedNames
import SecretFlow.Proofs.CutLines
import SecretFlow.Proofs.HereDocuments
import SecretFlow.Proofs.MovedFiles
import SecretFlow.Proofs.SingleFileRoots
import SecretFlow.Proofs.StatementPlaces
import SecretFlow.Proofs.StatementUses
import SecretFlow.Proofs.CleanNames
import SecretFlow.Proofs.QuotedPlaces
import SecretFlow.Proofs.VariableReferences
import SecretFlow.Proofs.ArgumentReferences
import SecretFlow.Proofs.LineAccounts
import SecretFlow.Proofs.LineParts
import SecretFlow.Proofs.LineSlices
import SecretFlow.Proofs.Substitutions
import SecretFlow.Proofs.SinkChoice
import SecretFlow.Proofs.StatementNodes
import SecretFlow.Proofs.IndexedGraphs
import SecretFlow.Proofs.BackwardWalks
import SecretFlow.Proofs.ScriptPlaces
import SecretFlow.Proofs.FieldPaths
import SecretFlow.Proofs.ListElements
import SecretFlow.Proofs.WorkloadLists
import SecretFlow.Proofs.ArgumentFields
import SecretFlow.Proofs.DrawnGraphs
import SecretFlow.Proofs.ReportedRules
import SecretFlow.Proofs.BuildRuns
import SecretFlow.Proofs.ListedScopes
import SecretFlow.Proofs.ScriptStacks
import SecretFlow.Proofs.BuildActs
import SecretFlow.Proofs.EdgeEnds
