import ArkLifecycle.ArtifactStore
import ArkLifecycle.Catalog.Reader
import ArkLifecycle.EventLog
import ArkLifecycle.Export.DataFlow
import ArkLifecycle.Export.Dot
import ArkLifecycle.Export.Markdown
import ArkLifecycle.Json.Access
import ArkLifecycle.Program.Reader
import ArkLifecycle.Report

/-! A run: from a program's file and settings to the results on file.

The catalog is resolved and the analysis named first; only then are directories made and events
logged. The program is loaded, analyzed and reported inside one span. Events are written to the log
as they arise. A run that fails tells so in its last event, and keeps the files that it has written
until then.
-/

namespace ArkLifecycle

/-- What a run is asked for. A value that is absent or empty is taken from the settings. -/
structure RunRequest where
  modelPath : Json
  catalog : Json
  outDir : Json
  workers : Json
deriving Repr, Inhabited

/-- What tells one run from another: its name and its time. -/
structure RunStamp where
  runId : Text
  timestamp : Text
deriving DecidableEq, Repr, Inhabited

/-- What a run has done so far: the session, the files, and the result of the analysis. -/
structure RunState where
  session : Session
  tree : FileTree
  analysis : Option Analysis
deriving Inhabited

/-- A part of a run: it leaves its state behind, whether it succeeds or fails. -/
abbrev RunStep := ExceptT Fault (StateM RunState)

/-- What a run is about. -/
structure RunSubject where
  conf : Json
  catalog : Catalog
  modelPath : Text
  analysisId : Text

/-- What is settled before a run begins. -/
structure RunPlan where
  stamp : RunStamp
  conf : Json
  catalog : Catalog
  modelPath : Text
  analysisId : Text
  store : ArtifactStore
  log : EventLog
  host : Host

namespace RunStep

/-- (perform plan activity) does a part of an analysis, and writes the events that it logs. -/
def perform {α : Type} (plan : RunPlan) (activity : Activity α) : RunStep α :=
  ExceptT.mk fun state =>
    let (result, session) := activity.run state.session
    let events := session.events.drop state.session.events.length
    let (written, tree) := (plan.log.writeAll plan.stamp.timestamp events).run state.tree
    (written >>= fun _ => result, { state with session, tree })

/-- (edit change) changes the files. -/
def edit {α : Type} (change : FileEdit α) : RunStep α :=
  ExceptT.mk fun state =>
    let (result, tree) := change.run state.tree
    (result, { state with tree })

/-- (attempt step) does a part of a run and gives its fault as a value. -/
def attempt {α : Type} (step : RunStep α) : RunStep (Except Fault α) :=
  ExceptT.mk fun state =>
    let (result, state) := step.run state
    (.ok result, state)

/-- (span host name given step) does a part of a run inside a span. -/
def span {α : Type} (host : Host) (name : Text) (given : Json.Fields)
    (step : RunStep α)
    : RunStep α :=
  ExceptT.mk fun state =>
    let (result, after) := step.run { state with session := state.session.openSpan (.text name) }
    let session := after.session.closeSpan state.session.openSpans (.text name)
      (Span.attributesOf host.context given)
    (result, { after with session })

/-- (log plan event) logs an event. -/
def log (plan : RunPlan) (event : Event) : RunStep Unit :=
  perform plan (Activity.log plan.host event)

end RunStep

namespace Run

-----------------------------------------------------------------------------------------
-- Before the run

/-- (directories) are made for every run, also for one that fails later on. -/
def directories : List Text := ["report", "dataflow", "graphs"]

/-- (makeDirectories store parts) makes directories below the root of a store. -/
def makeDirectories (store : ArtifactStore) (parts : List Text) : RunStep Unit :=
  parts.forM fun part => RunStep.edit (store.ensureDirectory [part])

/-- (basePath conf request) is the directory that all results stand below. -/
def basePath (conf : Json) (request : RunRequest) : Except Fault Path := do
  let base ←
    if request.outDir.truthy then
      .ok request.outDir
    else
      conf.fieldD "artifacts_dir" (.text "artifacts")
  return .ofText (← base.pathText)

/-- (catalogReference conf request) names the catalog of a run. -/
def catalogReference (conf : Json) (request : RunRequest) : Except Fault Json :=
  if request.catalog.truthy then .ok request.catalog else conf.fieldD "catalog" .null

/-- (isLogged settings) holds when the events of a run are to be written. -/
def isLogged (settings : Json) : Except Fault Bool := do
  let conf ← settings.fieldD "observability" (.object [])
  return (← conf.fieldD "enabled" (.bool true)).truthy

/-- (startLog store settings) begins the log of a run. -/
def startLog (store : ArtifactStore) (settings : Json) : RunStep EventLog := do
  RunStep.edit (EventLog.start store store.runId (← isLogged settings))

/-- (settle tree settings request) resolves the catalog and names the analysis. -/
def settle (tree : FileTree) (settings : Json) (request : RunRequest)
    : Except Fault RunSubject := do
  let conf ← settings.fieldD "analysis" (.object [])
  let catalog ← Catalog.resolve tree (← catalogReference conf request)
  let modelPath ← ArtifactStore.subjectPath request.modelPath
  let analysisId ← ArtifactStore.programId tree modelPath
  return { conf, catalog, modelPath, analysisId }

/-- (prepare host settings request stamp) settles what a run needs and makes its directories. -/
def prepare (host : Host) (settings : Json) (request : RunRequest) (stamp : RunStamp)
    : RunStep RunPlan := do
  let { conf, catalog, modelPath, analysisId } ← settle (← get).tree settings request
  let base ← basePath conf request
  let store : ArtifactStore := { base, analysisId, runId := some stamp.runId }
  makeDirectories store directories
  let log ← startLog store settings
  let context :=
    host.context.enter (.text analysisId) (.text stamp.runId) (.text catalog.version)
  let host := { host with context, refuse := log.refuses stamp.timestamp }
  return { stamp, conf, catalog, modelPath, analysisId, store, log, host }

-----------------------------------------------------------------------------------------
-- Loading and analyzing

/-- (loadProgram conf tree path) reads the program of a run. -/
def loadProgram (conf : Json) (tree : FileTree) (path : Text) : Except Fault Program := do
  let validated ← conf.fieldD "validate_model" (.bool true)
  Program.read validated.truthy (← Json.parse (← tree.read (.ofText path)))

/-- (loadStage plan) loads the program. -/
def loadStage (plan : RunPlan) : RunStep Program := do
  RunStep.log plan (.stageStart (.text "load") [])
  let program ← RunStep.span plan.host "stage.load" [("stage", .text "load")] do
    loadProgram plan.conf (← get).tree plan.modelPath
  RunStep.log plan <| .stageEnd (.text "load") (.text "ok")
    [("files", .ofNat program.files.length), ("catalog_version", .text plan.catalog.version)]
  return program

/-- (optionsOf conf request) is what the settings ask of the analysis. -/
def optionsOf (conf : Json) (request : RunRequest) : Except Fault AnalysisOptions := do
  let skipTestFiles ← conf.fieldD "skip_test_files" (.bool true)
  let workers ←
    if request.workers.truthy then .ok request.workers else conf.fieldD "workers" (.int 1)
  let nodeLimit ← conf.fieldD "max_callgraph_nodes" .null
  let scope ← conf.fieldD "scope" (.text "lifecycle")
  AnalysisOptions.of scope workers skipTestFiles
    (if nodeLimit.shape = .null then none else some nodeLimit) none

/-- (analyze plan request program) analyzes the program and keeps the result. -/
def analyze (plan : RunPlan) (request : RunRequest) (program : Program) : RunStep Analysis := do
  let options ← optionsOf plan.conf request
  let analysis ← RunStep.perform plan (Analysis.run plan.host program plan.catalog options)
  modify fun state => { state with analysis := some analysis }
  return analysis

-----------------------------------------------------------------------------------------
-- Reporting

/-- (artifacts analysis) are the files that hold the results: their names in the report and their
places below the root of the run.
-/
def artifacts (analysis : Analysis) : List (Text × Text) :=
  let always : List (Text × Text) :=
    [("report", "report/report.json"),
      ("dataflow_json", "dataflow/dataflow.json"),
      ("dataflow_md", "dataflow/dataflow.md"),
      ("callgraph_dot", "graphs/callgraph.dot"),
      ("coverage", "report/coverage.json")]
  let graph : Text × Text := ("callgraph_json", "graphs/callgraph.json")
  let sweep : Text × Text := ("project_sweep", "report/project_sweep.json")
  always ++ (analysis.callGraph.graph.map fun _ => graph).toList
    ++ (analysis.sweep.map fun _ => sweep).toList

/-- (reportJson plan analysis) is the report of a run: that of the analysis, the run
it belongs to, and where its results are.
-/
def reportJson (plan : RunPlan) (analysis : Analysis) : Json :=
  let origin : Json.Fields := [
    ("analysis_id", .text plan.analysisId),
    ("run_id", .text plan.stamp.runId),
    ("model_path", .text plan.modelPath),
    ("artifacts", .object ((artifacts analysis).map fun (name, place) =>
      (name, .text (plan.store.reference place))))]
  .object ((Report.of analysis (some plan.catalog)).fields ++ origin)

/-- (writeJson plan place v) writes a document among the results. -/
def writeJson (plan : RunPlan) (place : Text) (v : Json) : RunStep Unit :=
  RunStep.edit (plan.store.writeJson place v)

/-- (writeText plan place text) writes a text among the results. -/
def writeText (plan : RunPlan) (place text : Text) : RunStep Unit :=
  RunStep.edit (plan.store.writeText place text)

/-- (writeResults plan analysis report) writes the results one after the other. -/
def writeResults (plan : RunPlan) (analysis : Analysis) (report : Json) : RunStep Unit := do
  match analysis.callGraph.graph with
  | some graph => writeJson plan "graphs/callgraph.json" graph.toJson
  | none => pure ()
  match analysis.sweep with
  | some sweep => writeJson plan "report/project_sweep.json" sweep.toJson
  | none => pure ()
  writeJson plan "report/report.json" report
  writeJson plan "dataflow/dataflow.json"
    (Export.dataFlowJson analysis.listing plan.stamp.timestamp)
  writeText plan "dataflow/dataflow.md"
    (← Export.markdown analysis.listing plan.stamp.timestamp)
  writeText plan "graphs/callgraph.dot" (← Export.dot analysis.records)
  writeJson plan "report/coverage.json" analysis.snapshot.toJson

/-- (reportStage plan analysis) makes the report and writes the results. -/
def reportStage (plan : RunPlan) (analysis : Analysis) : RunStep Json := do
  let report := reportJson plan analysis
  RunStep.log plan (.stageStart (.text "report") [])
  RunStep.span plan.host "stage.report" [("stage", .text "report")] <|
    writeResults plan analysis report
  RunStep.log plan <| .stageEnd (.text "report") (.text "ok")
    [("ref", .text (plan.store.reference "report/report.json"))]
  return report

-----------------------------------------------------------------------------------------
-- The run

/-- (stages plan request) loads, analyzes and reports: the report, and whether the analysis was
stopped.
-/
def stages (plan : RunPlan) (request : RunRequest) : RunStep (Json × Bool) :=
  RunStep.span plan.host "run" [("model_path", .text plan.modelPath)] do
    let program ← loadStage plan
    let analysis ← analyze plan request program
    return (← reportStage plan analysis, analysis.cancelled)

/-- (startEvent plan) is the first event of a run. -/
def startEvent (plan : RunPlan) : Event :=
  ⟨.text "run.start", [
    ("model_path", .text plan.modelPath), ("catalog_version", .text plan.catalog.version)]⟩

/-- (endEvent result) is the last event of a run. -/
def endEvent : Except Fault (Json × Bool) → Event
  | .ok (_, cancelled) => ⟨.text "run.end", [("status", Analysis.endStatus cancelled)]⟩
  | .error fault =>
      ⟨.text "run.end", [("status", .text "error"), ("error", .text fault.message)]⟩

/-- (run host settings request stamp) is a run; it gives the report. -/
def run (host : Host) (settings : Json) (request : RunRequest) (stamp : RunStamp)
    : RunStep Json := do
  let plan ← prepare host settings request stamp
  RunStep.log plan (startEvent plan)
  let result ← RunStep.attempt (stages plan request)
  RunStep.log plan (endEvent result)
  match result with
  | .ok (report, _) => return report
  | .error fault => throw fault

end Run

end ArkLifecycle
