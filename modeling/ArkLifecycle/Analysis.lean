import ArkLifecycle.CallGraph.Strategy
import ArkLifecycle.Coverage
import ArkLifecycle.Identification
import ArkLifecycle.Scan
import ArkLifecycle.Sweep

/-! The analysis of a program.

The callbacks are identified, the virtual entry method is made, the call graph is built and the
bodies of the callbacks are scanned; the whole project is swept when that is in scope. A denied
question costs the analysis what the question was about, and no more, except in the sweep.

Several workers scan in any order. Each task looks once whether to stop and then scans; what
counts is the beginning of the list of callbacks up to the first task that was to stop.
-/

namespace ArkLifecycle

/-- How far an analysis goes. -/
inductive Scope where
  | lifecycle
  | project
deriving DecidableEq, Repr, Inhabited

namespace Scope

/-- (name scope) is the word for a scope in settings and reports. -/
def name : Scope → Text
  | .lifecycle => "lifecycle"
  | .project => "project"

/-- (all) lists the scopes. -/
def all : List Scope := [.lifecycle, .project]

/-- (ofJson v) is the scope that a document names. -/
def ofJson (v : Json) : Except Fault Scope :=
  match all.find? fun scope => v.isText scope.name with
  | some scope => .ok scope
  | none => do throw (.unknownScope (← v.quoted) (all.map name))

end Scope

/-- What went wrong in a stage without stopping the analysis. -/
inductive StageError where
  | callGraph (message : Text)
  | scan (method : Text) (message : Text)
deriving DecidableEq, Repr, Inhabited

/-- (StageError.toJson error) writes an error. -/
def StageError.toJson : StageError → Json
  | .callGraph message => .object [("stage", .text "callgraph"), ("error", .text message)]
  | .scan method message =>
      .object [("stage", .text "scan"), ("method", .text method), ("error", .text message)]

/-- The numbers of an analysis. -/
structure Stats where
  totalFiles : Nat
  totalClasses : Nat
  totalMethods : Nat
  abilityClasses : Nat
  componentClasses : Nat
  lifecycleMethods : Nat
  analyzedMethods : Nat
  callGraphNodes : Nat
  callGraphEdges : Nat
  dataFlowPaths : Nat
  undefinedIssues : Nat
deriving DecidableEq, Repr, Inhabited

/-- (Stats.toJson stats) writes the numbers of an analysis. -/
def Stats.toJson (stats : Stats) : Json :=
  .object [
    ("total_files", .ofNat stats.totalFiles),
    ("total_classes", .ofNat stats.totalClasses),
    ("total_methods", .ofNat stats.totalMethods),
    ("ability_classes", .ofNat stats.abilityClasses),
    ("component_classes", .ofNat stats.componentClasses),
    ("lifecycle_methods", .ofNat stats.lifecycleMethods),
    ("analyzed_methods", .ofNat stats.analyzedMethods),
    ("call_graph_nodes", .ofNat stats.callGraphNodes),
    ("call_graph_edges", .ofNat stats.callGraphEdges),
    ("data_flow_paths", .ofNat stats.dataFlowPaths),
    ("undefined_issues", .ofNat stats.undefinedIssues)]

/-- The result of an analysis. -/
structure Analysis where
  catalogVersion : Text
  stats : Stats
  records : List Record
  roles : List (Text × Role)
  entry : SyntheticMethod
  callGraph : CallGraphSummary
  flows : List DataFlow
  issues : List RiskIssue
  snapshot : Snapshot
  flowStatus : Text
  cancelled : Bool
  errors : List StageError
  scope : Scope
  sweep : Option Sweep
deriving Inhabited

/-- What an analysis is asked for. Without a backend the library builds the call graph itself. The
schedule gives the order in which several workers take up a number of tasks.
-/
structure AnalysisOptions where
  skipTestFiles : Json
  workers : Nat
  nodeLimit : Option Json
  scope : Scope
  backend : Option Backend
  schedule : Nat → List Nat

namespace AnalysisOptions

/-- (workersOf v) is the number of workers that a document asks for, at least one. -/
def workersOf (v : Json) : Except Fault Nat := do
  let asked ← if v.truthy then v.toInt else .ok 1
  return (max 1 asked).toNat

/-- (of scope workers skipTestFiles nodeLimit backend) checks the scope, then the workers. -/
def of (scope workers skipTestFiles : Json) (nodeLimit : Option Json) (backend : Option Backend)
    : Except Fault AnalysisOptions := do
  let scope ← Scope.ofJson scope
  let workers ← workersOf workers
  return { skipTestFiles, workers, nodeLimit, scope, backend, schedule := List.range }

end AnalysisOptions

namespace Analysis

-----------------------------------------------------------------------------------------
-- Scanning the callbacks

/-- (scanTask host options record) looks whether to stop, and otherwise scans a callback. A scan
that fails finds nothing and leaves an error.
-/
def scanTask (host : Host) (options : ScanOptions) (record : Record)
    : Activity (Option ScanResult × List StageError) := do
  if ← Activity.shouldStop host then
    return (none, [])
  else if !record.hasImplementation then
    return (some Scan.nothing, [])
  else
    match ← Activity.attempt (Scan.scan host options record) with
    | .ok result => return (some result, [])
    | .error fault => return (some Scan.nothing, [.scan record.key fault.message])

/-- (scanInOrder host options records) scans callbacks one after the other until it is to stop. -/
def scanInOrder (host : Host) (options : ScanOptions)
    : List Record → Activity (List ScanResult × List StageError)
  | [] => return ([], [])
  | record :: rest => do
      match ← scanTask host options record with
      | (none, errors) => return ([], errors)
      | (some result, errors) =>
          let (results, more) ← scanInOrder host options rest
          return (result :: results, errors ++ more)

/-- (runTasks host options records order) runs the tasks in the given order, and gives the result
of each with its place in the list of callbacks, and the errors as they arose.
-/
def runTasks (host : Host) (options : ScanOptions) (records : List Record)
    : List Nat → Activity (List (Nat × Option ScanResult) × List StageError)
  | [] => return ([], [])
  | place :: rest =>
      match records[place]? with
      | none => runTasks host options records rest
      | some record => do
          let (result, errors) ← scanTask host options record
          let (results, more) ← runTasks host options records rest
          return ((place, result) :: results, errors ++ more)

/-- (completed results places) are the results at the given places up to the first one that is
missing.
-/
def completed (results : List (Nat × Option ScanResult)) : List Nat → List ScanResult
  | [] => []
  | place :: rest =>
      match ((results.find? fun entry => entry.1 == place).map Prod.snd).join with
      | some result => result :: completed results rest
      | none => []

/-- (scanAll host options workers schedule records) scans the callbacks: the results of a beginning
of the list, and the errors.
-/
def scanAll (host : Host) (options : ScanOptions) (workers : Nat) (schedule : Nat → List Nat)
    (records : List Record)
    : Activity (List ScanResult × List StageError) := do
  if workers = 1 ∨ records.length < 2 then
    scanInOrder host options records
  else
    let (results, errors) ← runTasks host options records (schedule records.length)
    return (completed results (List.range records.length), errors)

-----------------------------------------------------------------------------------------
-- Stages

/-- (endStatus cancelled) is the word for how something ended that can be stopped. -/
def endStatus (cancelled : Bool) : Json :=
  .text (if cancelled then "cancelled" else "ok")

/-- (identifyStage host program catalog options) identifies the callbacks. -/
def identifyStage (host : Host) (program : Program) (catalog : Catalog)
    (options : AnalysisOptions)
    : Activity Identification := do
  Activity.log host <| .stageStart (.text "identify") [("catalog_version", .text catalog.version)]
  let found ← Activity.span host "stage.identify" [("stage", .text "identify")] <|
    Identification.identify host program catalog options.skipTestFiles.truthy
  Activity.log host <| .stageEnd (.text "identify") (.text "ok") [
    ("total_classes", .ofNat found.totalClasses),
    ("lifecycle_methods", .ofNat found.records.length),
    ("skipped_files", .ofNat found.skippedFiles),
    ("skipped_classes", .ofNat found.skippedClasses)]
  return found

/-- (callGraphStage host program options entry records) builds the call graph. -/
def callGraphStage (host : Host) (program : Program) (options : AnalysisOptions)
    (entry : SyntheticMethod) (records : List Record)
    : Activity CallGraphSummary := do
  Activity.log host <| .stageStart (.text "callgraph") []
  let backend := options.backend.getD (.hierarchy [entry] options.nodeLimit)
  let summary ← CallGraphSummary.build backend host program records
  let status := if summary.failed then "error" else "ok"
  Activity.log host <| .stageEnd (.text "callgraph") (.text status) summary.fields
  return summary

/-- What the scan stage found. -/
structure Scanned where
  results : List ScanResult
  errors : List StageError
  cancelled : Bool
deriving Repr, Inhabited

/-- (Scanned.flows scanned) are the data flows in the order of the callbacks. -/
def Scanned.flows (scanned : Scanned) : List DataFlow :=
  scanned.results.flatMap ScanResult.flows

/-- (Scanned.issues scanned) are the issues in the order of the callbacks. -/
def Scanned.issues (scanned : Scanned) : List RiskIssue :=
  scanned.results.flatMap ScanResult.issues

/-- (Scanned.analyzed scanned) is the number of callbacks with a body. -/
def Scanned.analyzed (scanned : Scanned) : Nat :=
  (scanned.results.filter ScanResult.analyzed).length

/-- (scanStage host catalog options summary records) scans the callbacks. -/
def scanStage (host : Host) (catalog : Catalog) (options : AnalysisOptions)
    (summary : CallGraphSummary) (records : List Record)
    : Activity Scanned := do
  let scanOptions : ScanOptions :=
    { weak := catalog.weakSignals
      lead := if summary.strategy = .syntheticEntry then [.text EntryMethod.key] else []
      extractFlows := summary.graph.isSome }
  Activity.log host <| .stageStart (.text "scan")
    [("extract_edges", .bool scanOptions.extractFlows)]
  let (results, errors) ← Activity.span host "stage.scan"
    [("stage", .text "scan"), ("workers", .ofNat options.workers)]
    (scanAll host scanOptions options.workers options.schedule records)
  let scanned : Scanned := ⟨results, errors, results.length < records.length⟩
  Activity.log host <| .stageEnd (.text "scan") (endStatus scanned.cancelled) [
    ("analyzed_methods", .ofNat scanned.analyzed),
    ("data_flow_paths", .ofNat scanned.flows.length),
    ("undefined_issues", .ofNat scanned.issues.length)]
  return scanned

/-- (sweepStage host program options) sweeps the project. -/
def sweepStage (host : Host) (program : Program) (options : AnalysisOptions) : Activity Sweep := do
  Activity.log host <| .stageStart (.text "project_sweep")
    [("skip_test_files", options.skipTestFiles)]
  let sweep ← Activity.span host "stage.project_sweep" [("stage", .text "project_sweep")] <|
    Sweep.run host program options.skipTestFiles.truthy
  Activity.log host <| .stageEnd (.text "project_sweep") (endStatus sweep.cancelled) [
    ("analyzed_methods", .ofNat sweep.analyzedMethods),
    ("issues_found", .ofNat sweep.issues.length)]
  return sweep

/-- (sweepIfAsked host program options scanned) sweeps the project when that is in scope and the
scan was not stopped.
-/
def sweepIfAsked (host : Host) (program : Program) (options : AnalysisOptions)
    (scanned : Scanned)
    : Activity (Option Sweep) :=
  if options.scope = .project ∧ !scanned.cancelled then
    some <$> sweepStage host program options
  else
    return none

/-- (callGraphErrors summary) is the error of the call graph, if there is one. -/
def callGraphErrors (summary : CallGraphSummary) : List StageError :=
  match summary.error with
  | some message => if message.isEmpty then [] else [.callGraph message]
  | none => []

/-- (flowStatusOf summary) tells whether data flows were looked for at all. -/
def flowStatusOf (summary : CallGraphSummary) : Text :=
  if summary.graph.isSome then "ok" else "skipped"

/-- (statsOf found summary scanned) are the numbers of an analysis. -/
def statsOf (found : Identification) (summary : CallGraphSummary) (scanned : Scanned) : Stats :=
  { totalFiles := found.totalFiles
    totalClasses := found.totalClasses
    totalMethods := found.totalMethods
    abilityClasses := found.abilityClasses
    componentClasses := found.componentClasses
    lifecycleMethods := found.records.length
    analyzedMethods := scanned.analyzed
    callGraphNodes := summary.nodeCount
    callGraphEdges := summary.edgeCount
    dataFlowPaths := scanned.flows.length
    undefinedIssues := scanned.issues.length }

/-- (run host program catalog options) analyzes a program. -/
def run (host : Host) (program : Program) (catalog : Catalog) (options : AnalysisOptions)
    : Activity Analysis := do
  let found ← identifyStage host program catalog options
  let entry := EntryMethod.ofRecords found.records
  Activity.log host ⟨.text "entry.synthesized",
    [("signature", .text entry.signature), ("call_count", .ofNat entry.calls.length)]⟩
  let summary ← callGraphStage host program options entry found.records
  let scanned ← scanStage host catalog options summary found.records
  let sweep ← sweepIfAsked host program options scanned
  let tracker := (Tracker.ofCatalog catalog).foldAll found.records |>.foldFlows scanned.flows
  return {
    catalogVersion := catalog.version
    stats := statsOf found summary scanned
    records := found.records
    roles := found.roles
    entry
    callGraph := summary
    flows := scanned.flows
    issues := scanned.issues
    snapshot := tracker.snapshot
    flowStatus := flowStatusOf summary
    cancelled :=
      match sweep with
      | some sweep => sweep.cancelled
      | none => scanned.cancelled
    errors := callGraphErrors summary ++ scanned.errors
    scope := options.scope
    sweep }

end Analysis

end ArkLifecycle
