import ArkLifecycle.Analysis
import ArkLifecycle.ArtifactStore
import ArkLifecycle.Calendar
import ArkLifecycle.CallGraph.Basic
import ArkLifecycle.CallGraph.Strategy
import ArkLifecycle.CallGraph.Written
import ArkLifecycle.Catalog.Basic
import ArkLifecycle.Catalog.Builtin
import ArkLifecycle.Catalog.Listing
import ArkLifecycle.Catalog.Reader
import ArkLifecycle.Classification
import ArkLifecycle.CommandLine.Flag
import ArkLifecycle.CommandLine.Options
import ArkLifecycle.CommandLine.Outcome
import ArkLifecycle.Coverage
import ArkLifecycle.Coverage.Written
import ArkLifecycle.Digest
import ArkLifecycle.EntryMethod
import ArkLifecycle.EventLog
import ArkLifecycle.EventLog.Request
import ArkLifecycle.Export.DataFlow
import ArkLifecycle.Export.Dot
import ArkLifecycle.Export.Markdown
import ArkLifecycle.Export.Written
import ArkLifecycle.Fault
import ArkLifecycle.Files.Emission
import ArkLifecycle.Files.Path
import ArkLifecycle.Files.Provision
import ArkLifecycle.Files.Tree
import ArkLifecycle.Identification
import ArkLifecycle.Invocation
import ArkLifecycle.Json.Access
import ArkLifecycle.Json.Basic
import ArkLifecycle.Json.Cycle
import ArkLifecycle.Json.Datum
import ArkLifecycle.Json.Display
import ArkLifecycle.Json.Parser
import ArkLifecycle.Json.Printer
import ArkLifecycle.Json.Same
import ArkLifecycle.Json.Wrapped
import ArkLifecycle.Main
import ArkLifecycle.Number.Binary64
import ArkLifecycle.Number.Fixed
import ArkLifecycle.Number.FloatText
import ArkLifecycle.Number.IntegerText
import ArkLifecycle.Number.Shortest
import ArkLifecycle.Operation
import ArkLifecycle.Program.Basic
import ArkLifecycle.Program.Index
import ArkLifecycle.Program.Listing
import ArkLifecycle.Program.Reader
import ArkLifecycle.Program.Schema
import ArkLifecycle.Record
import ArkLifecycle.Record.Reader
import ArkLifecycle.Report
import ArkLifecycle.Risk
import ArkLifecycle.Role
import ArkLifecycle.Run
import ArkLifecycle.Scan
import ArkLifecycle.Schema.Basic
import ArkLifecycle.Schema.Reference
import ArkLifecycle.Session
import ArkLifecycle.Settings
import ArkLifecycle.Settings.Environment
import ArkLifecycle.Signature
import ArkLifecycle.Summary
import ArkLifecycle.Sweep
import ArkLifecycle.Text.Basic
import ArkLifecycle.Text.Blank
import ArkLifecycle.Text.Cased
import ArkLifecycle.Text.Digit
import ArkLifecycle.Text.Encoding
import ArkLifecycle.Text.Lower
import ArkLifecycle.Text.Pieces
import ArkLifecycle.Text.Printable
import ArkLifecycle.Text.Quoted
import ArkLifecycle.Text.Search
import ArkLifecycle.Text.Unit
import ArkLifecycle.Text.Word
import ArkLifecycle.Trace
import ArkLifecycle.Yaml.Base64
import ArkLifecycle.Yaml.Cursor
import ArkLifecycle.Yaml.Document
import ArkLifecycle.Yaml.Layout
import ArkLifecycle.Yaml.Node
import ArkLifecycle.Yaml.Property
import ArkLifecycle.Yaml.Scalar
import ArkLifecycle.Yaml.SetOrder
import ArkLifecycle.Yaml.Stamp
import ArkLifecycle.Yaml.Tag
import ArkLifecycle.Yaml.Token
import ArkLifecycle.Proofs.CallGraph.Exploration
import ArkLifecycle.Proofs.CallGraph.Reachability
import ArkLifecycle.Proofs.Classification.Role
import ArkLifecycle.Proofs.Identification.Visit
import ArkLifecycle.Proofs.Scan.Findings
import ArkLifecycle.Proofs.Scan.Schedule
import ArkLifecycle.Proofs.Analysis.Stages
import ArkLifecycle.Proofs.Analysis.FaultIsolation
import ArkLifecycle.Proofs.Sweep.Denials
import ArkLifecycle.Proofs.Analysis.ParallelScan
import ArkLifecycle.Proofs.Classification.Ancestry
import ArkLifecycle.Proofs.Identification.Exactness
import ArkLifecycle.Proofs.Scan.Failures
import ArkLifecycle.Proofs.Analysis.ErrorOrder
import ArkLifecycle.Proofs.Identification.CatalogGrowth
import ArkLifecycle.Proofs.Sweep.Beginning
import ArkLifecycle.Proofs.Analysis.Cancellation
import ArkLifecycle.Proofs.CallGraph.Resolution
import ArkLifecycle.Proofs.Identification.Unhindered
import ArkLifecycle.Proofs.Identification.Collection
import ArkLifecycle.Proofs.Identification.Roles
import ArkLifecycle.Proofs.CallGraph.Roots
import ArkLifecycle.Proofs.Identification.TestFiles
import ArkLifecycle.Proofs.Analysis.Unhindered
import ArkLifecycle.Proofs.Analysis.SkippedFiles
import ArkLifecycle.Proofs.Schema.Agreement
import ArkLifecycle.Proofs.Json.Numerals
import ArkLifecycle.Proofs.Program.Fidelity
import ArkLifecycle.Proofs.Program.Reading
import ArkLifecycle.Proofs.Export.Drawing
import ArkLifecycle.Proofs.Analysis.ValidDocuments
import ArkLifecycle.Proofs.Catalog.Names
import ArkLifecycle.Proofs.Coverage.Tally
import ArkLifecycle.Proofs.Analysis.Balance
import ArkLifecycle.Proofs.Scan.Abreast
import ArkLifecycle.Proofs.Analysis.Backends
import ArkLifecycle.Proofs.Coverage.Ranking
import ArkLifecycle.Proofs.Coverage.History
import ArkLifecycle.Proofs.Analysis.Results
import ArkLifecycle.Proofs.Report.Document
import ArkLifecycle.Proofs.Report.Agreement
import ArkLifecycle.Proofs.Export.Grouping
import ArkLifecycle.Proofs.Sweep.Agreement
import ArkLifecycle.Proofs.CallGraph.Limit
import ArkLifecycle.Proofs.CallGraph.Distance
import ArkLifecycle.Proofs.Session.Effect
import ArkLifecycle.Proofs.Files.Growth
import ArkLifecycle.Proofs.Files.Names
import ArkLifecycle.Proofs.Run.Steps
import ArkLifecycle.Proofs.Run.Preparation
import ArkLifecycle.Proofs.Run.Artifacts
import ArkLifecycle.Proofs.Session.Silence
import ArkLifecycle.Proofs.Session.Signs
import ArkLifecycle.Proofs.Analysis.Course
import ArkLifecycle.Proofs.EventLog.Lines
import ArkLifecycle.Proofs.Run.Protocol
import ArkLifecycle.Proofs.CallGraph.Completeness
import ArkLifecycle.Proofs.Signature.RoundTrip
import ArkLifecycle.Proofs.Invocation.Strict
import ArkLifecycle.Proofs.Invocation.Loose
import ArkLifecycle.Proofs.Invocation.Target
import ArkLifecycle.Proofs.Scan.Exactness
import ArkLifecycle.Proofs.Invocation.Signed
import ArkLifecycle.Proofs.Sweep.SolverCalls
import ArkLifecycle.Proofs.Analysis.CallGraphFailure
import ArkLifecycle.Proofs.Identification.CatalogExtension
import ArkLifecycle.Proofs.Json.Display
import ArkLifecycle.Proofs.Json.Sameness
import ArkLifecycle.Proofs.Json.Fields
import ArkLifecycle.Proofs.Json.Cycle
import ArkLifecycle.Proofs.Catalog.Contents
import ArkLifecycle.Proofs.Yaml.Fields
import ArkLifecycle.Proofs.Settings.Overrides
import ArkLifecycle.Proofs.Settings.Layers
import ArkLifecycle.Proofs.Export.Picture
import ArkLifecycle.Proofs.Export.NodeCap
import ArkLifecycle.Proofs.Export.Quotation
import ArkLifecycle.Proofs.Export.Namesakes
import ArkLifecycle.Proofs.Export.Tables
import ArkLifecycle.Proofs.Json.Spelling
import ArkLifecycle.Proofs.Json.RoundTrip
import ArkLifecycle.Proofs.EventLog.Requests
import ArkLifecycle.Proofs.EventLog.Records
import ArkLifecycle.Proofs.Run.Transcript
import ArkLifecycle.Proofs.Classification.Climb
