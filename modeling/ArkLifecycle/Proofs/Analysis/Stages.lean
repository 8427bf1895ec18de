import ArkLifecycle.Proofs.CallGraph.Reachability
import ArkLifecycle.Proofs.Identification.Visit
import ArkLifecycle.Proofs.Scan.Schedule

/-! How far an analysis gets, whatever is denied to it.

A denied question never ends the identification, the call graph or the scan. Only the sweep, which
comes last, can fail.
-/

namespace ArkLifecycle

open Activity

/-- The workers take up every task exactly once, in some order. -/
def AnalysisOptions.Fair (options : AnalysisOptions) : Prop :=
  ∀ tasks, (options.schedule tasks).Perm (List.range tasks)

-----------------------------------------------------------------------------------------
-- The call graph
-----------------------------------------------------------------------------------------

/-- An exploration is quiet when finding the callees of a node is.
Witness: induction on the fuel.
-/
theorem CallGraph.explore_quiet {ν : Type} [BEq ν] (limit : Option Json)
    {expand : ν → Activity (List ν)} (quiet : ∀ node, Quiet (expand node)) (fuel next : Nat)
    (graph : CallGraph ν)
    : Quiet (explore limit expand fuel next graph) := by
  induction fuel generalizing next graph with
  | zero => exact .pure graph
  | succ fuel ih =>
      unfold explore
      cases graph.nodes[next]? with
      | none => exact .pure graph
      | some caller =>
          refine (quiet caller).bind fun callees => ?_
          exact (Quiet.lift _).bind fun grown => ih (next + 1) grown

/-- Building a call graph does not look up whether to stop. -/
theorem Backend.build_quiet (backend : Backend) (host : Host) (program : Program)
    (entries : List Text)
    : Quiet (backend.build host program entries) := by
  cases backend with
  | hierarchy synthetic limit =>
      have callees (node : Text) : Quiet (CallGraph.calleesOf host program synthetic node) :=
        (CallGraph.calleesOf_answers host program synthetic node).quiet
      unfold Backend.build CallGraph.build CallGraph.buildBy
      exact .span host _ _ (CallGraph.explore_quiet limit callees _ _ _)
  | external hasMethod build => exact .lift _

theorem Backend.hasMethod_quiet (backend : Backend) (program : Program) (signature : Text)
    : Quiet (backend.hasMethod program signature) := by
  cases backend with
  | hierarchy synthetic limit => exact .pure _
  | external hasMethod build => exact .lift _

/-- The call graph of an analysis never fails, because both attempts catch what fails inside. -/
theorem CallGraphSummary.build_ok (backend : Backend) (host : Host) (program : Program)
    (records : List Record) (before : Session)
    : ∃ summary after,
        outcome (CallGraphSummary.build backend host program records) before
          = (.ok summary, after)
        ∧ Extends before after := by
  have choosing : Quiet (chooseRoots backend program records) := by
    refine (backend.hasMethod_quiet program _).bind fun known => ?_
    cases known with
    | true => exact .pure _
    | false =>
        simp only [Bool.false_eq_true, if_false]
        split <;> exact .pure _
  have building (strategy : Strategy) (entries : List Text)
      : Quiet (buildFrom backend host program strategy entries) := by
    unfold buildFrom
    split
    · exact .pure none
    · rw [map_eq_pure_bind]
      exact .span host _ _ ((backend.build_quiet host program entries).bind fun _ => .pure _)
  have begun := choosing before
  have tried := outcome_attempt (chooseRoots backend program records) before
  rw [build, outcome_bind_ok tried]
  rcases (outcome (chooseRoots backend program records) before).1 with fault | ⟨strategy, entries⟩
  · exact ⟨_, _, rfl, begun⟩
  · have extended := begun.trans (building strategy entries _)
    have tried := outcome_attempt (buildFrom backend host program strategy entries)
      (outcome (chooseRoots backend program records) before).2
    dsimp only
    rw [outcome_bind_ok tried]
    rcases (outcome (buildFrom backend host program strategy entries) _).1 with fault | graph
    · exact ⟨_, _, rfl, extended⟩
    · exact ⟨_, _, rfl, extended⟩

namespace Analysis

-----------------------------------------------------------------------------------------
-- The stages one by one
-----------------------------------------------------------------------------------------

/-- The first stage visits the examined classes, each isolated from the others. -/
theorem identifyStage_isolated {catalog : Catalog} (texts : catalog.PatternsAreTexts)
    {host : Host} (accepting : host.Accepting) (program : Program) (options : AnalysisOptions)
    (before : Session)
    : ∃ visits found after,
        outcome (identifyStage host program catalog options) before = (.ok found, after)
        ∧ Extends before after
        ∧ Identification.FoundBy host program catalog options.skipTestFiles.truthy
            before.queries after.queries visits found := by
  obtain ⟨visits, found, after, done, extended, visited⟩ :=
    Identification.identify_isolated texts host program options.skipTestFiles.truthy
      ((before.logEvent (.stageStart (.text "identify")
        [("catalog_version", .text catalog.version)])).openSpan (.text "stage.identify"))
  exact ⟨visits, found, _, outcome_between accepting _ _ (outcome_span done),
    ⟨extended.queries, extended.looks⟩, visited⟩

/-- The second stage always gives a summary. -/
theorem callGraphStage_ok {host : Host} (accepting : host.Accepting) (program : Program)
    (options : AnalysisOptions) (entry : SyntheticMethod) (records : List Record)
    (before : Session)
    : ∃ summary after,
        outcome (callGraphStage host program options entry records) before
          = (.ok summary, after)
        ∧ Extends before after := by
  obtain ⟨summary, after, done, extended⟩ := CallGraphSummary.build_ok
    (options.backend.getD (.hierarchy [entry] options.nodeLimit)) host program records
    (before.logEvent (.stageStart (.text "callgraph") []))
  exact ⟨summary, _, outcome_between accepting _ _ done, ⟨extended.queries, extended.looks⟩⟩

/-- (scanOptionsOf catalog summary) is how callbacks are scanned after the call graph is built. -/
def scanOptionsOf (catalog : Catalog) (summary : CallGraphSummary) : ScanOptions where
  weak := catalog.weakSignals
  lead := if summary.strategy = .syntheticEntry then [.text EntryMethod.key] else []
  extractFlows := summary.graph.isSome

/-- The third stage gives the results and errors of a scan that begins in the same log. -/
theorem scanStage_ok {host : Host} (accepting : host.Accepting) (catalog : Catalog)
    (options : AnalysisOptions) (summary : CallGraphSummary) (records : List Record)
    (before : Session)
    : ∃ started,
        Extends before started
        ∧ ∀ results errors middle,
            outcome
                (scanAll host (scanOptionsOf catalog summary) options.workers options.schedule
                  records)
                started
              = (.ok (results, errors), middle)
            → ∃ after,
                outcome (scanStage host catalog options summary records) before
                  = (.ok ⟨results, errors, results.length < records.length⟩, after)
                ∧ Extends middle after := by
  let first : Event := .stageStart (.text "scan") [("extract_edges", .bool summary.graph.isSome)]
  refine ⟨(before.logEvent first).openSpan (.text "stage.scan"), ⟨List.suffix_rfl, rfl⟩, ?_⟩
  intro results errors middle done
  have told := outcome_map
    (fun given : List ScanResult × List StageError =>
      (⟨given.1, given.2, given.1.length < records.length⟩ : Scanned))
    (span host "stage.scan" [("stage", .text "scan"), ("workers", .ofNat options.workers)]
      (scanAll host (scanOptionsOf catalog summary) options.workers options.schedule records))
    (before.logEvent first)
  rw [outcome_span done] at told
  have staged := outcome_between accepting first
    (fun scanned : Scanned => .stageEnd (.text "scan") (endStatus scanned.cancelled) [
      ("analyzed_methods", .ofNat scanned.analyzed),
      ("data_flow_paths", .ofNat scanned.flows.length),
      ("undefined_issues", .ofNat scanned.issues.length)]) told
  rw [bind_map_left] at staged
  exact ⟨_, staged, ⟨List.suffix_rfl, rfl⟩⟩

/-- The last stage gives a sweep, or fails with the fault of the sweep. -/
theorem sweepStage_ok {host : Host} (accepting : host.Accepting) (program : Program)
    (options : AnalysisOptions) (before : Session)
    : ∃ started,
        (∀ sweep middle,
          outcome (Sweep.run host program options.skipTestFiles.truthy) started
            = (.ok sweep, middle)
          → ∃ after, outcome (sweepStage host program options) before = (.ok sweep, after))
        ∧ ∀ fault,
            (outcome (Sweep.run host program options.skipTestFiles.truthy) started).1
              = .error fault
            → (outcome (sweepStage host program options) before).1 = .error fault := by
  refine ⟨(before.logEvent (.stageStart (.text "project_sweep")
    [("skip_test_files", options.skipTestFiles)])).openSpan (.text "stage.project_sweep"), ?_, ?_⟩
  · intro sweep middle done
    exact ⟨_, outcome_between accepting _ _ (outcome_span done)⟩
  · intro fault failed
    rw [sweepStage, outcome_bind_ok (outcome_log accepting _ _),
      outcome_bind_error (outcome_span (Prod.ext failed rfl))]

-----------------------------------------------------------------------------------------
-- The run in two parts
-----------------------------------------------------------------------------------------

/-- (prepare host program catalog options) is the part of an analysis before the scan. -/
def prepare (host : Host) (program : Program) (catalog : Catalog) (options : AnalysisOptions)
    : Activity (Identification × CallGraphSummary) := do
  let found ← identifyStage host program catalog options
  let entry := EntryMethod.ofRecords found.records
  log host ⟨.text "entry.synthesized",
    [("signature", .text entry.signature), ("call_count", .ofNat entry.calls.length)]⟩
  let summary ← callGraphStage host program options entry found.records
  return (found, summary)

/-- (concluded catalog options found summary scanned sweep) puts the parts of an analysis together.
-/
def concluded (catalog : Catalog) (options : AnalysisOptions) (found : Identification)
    (summary : CallGraphSummary) (scanned : Scanned) (sweep : Option Sweep)
    : Analysis where
  catalogVersion := catalog.version
  stats := statsOf found summary scanned
  records := found.records
  roles := found.roles
  entry := EntryMethod.ofRecords found.records
  callGraph := summary
  flows := scanned.flows
  issues := scanned.issues
  snapshot :=
    ((Tracker.ofCatalog catalog).foldAll found.records |>.foldFlows scanned.flows).snapshot
  flowStatus := flowStatusOf summary
  cancelled :=
    match sweep with
    | some sweep => sweep.cancelled
    | none => scanned.cancelled
  errors := callGraphErrors summary ++ scanned.errors
  scope := options.scope
  sweep

/-- (complete host program catalog options found summary) is the part of an analysis from the scan
on.
-/
def complete (host : Host) (program : Program) (catalog : Catalog) (options : AnalysisOptions)
    (found : Identification) (summary : CallGraphSummary)
    : Activity Analysis := do
  let scanned ← scanStage host catalog options summary found.records
  concluded catalog options found summary scanned
    <$> sweepIfAsked host program options scanned

/-- An analysis is its two parts one after the other. -/
theorem run_eq_prepare_complete (host : Host) (program : Program) (catalog : Catalog)
    (options : AnalysisOptions)
    : run host program catalog options
      = prepare host program catalog options
        >>= fun prepared => complete host program catalog options prepared.1 prepared.2 := by
  simp only [run, prepare, complete, bind_assoc, pure_bind, map_eq_pure_bind]
  rfl

/-- The part before the scan always ends when something was identified. -/
theorem prepare_identified {host : Host} (accepting : host.Accepting) {program : Program}
    {catalog : Catalog} {options : AnalysisOptions} {found : Identification}
    {before middle : Session}
    (identified
      : outcome (identifyStage host program catalog options) before = (.ok found, middle))
    : ∃ summary after,
        outcome (prepare host program catalog options) before = (.ok (found, summary), after)
        ∧ Extends middle after := by
  let entry := EntryMethod.ofRecords found.records
  obtain ⟨summary, after, built, extended⟩ := callGraphStage_ok accepting program options entry
    found.records
    (middle.logEvent ⟨.text "entry.synthesized",
      [("signature", .text entry.signature), ("call_count", .ofNat entry.calls.length)]⟩)
  refine ⟨summary, after, ?_, extended.queries, extended.looks⟩
  rw [prepare, outcome_bind_ok identified, outcome_bind_ok (outcome_log accepting _ _),
    outcome_bind_ok built, outcome_pure]

/-- The part before the scan always ends, and every class is isolated from the others in it. -/
theorem prepare_isolated {catalog : Catalog} (texts : catalog.PatternsAreTexts)
    {host : Host} (accepting : host.Accepting) (program : Program) (options : AnalysisOptions)
    (before : Session)
    : ∃ visits found summary after,
        outcome (prepare host program catalog options) before = (.ok (found, summary), after)
        ∧ Extends before after
        ∧ Identification.FoundBy host program catalog options.skipTestFiles.truthy
            before.queries after.queries visits found := by
  obtain ⟨visits, found, middle, identified, begun, visited⟩ :=
    identifyStage_isolated texts accepting program options before
  obtain ⟨summary, after, prepared, extended⟩ := prepare_identified accepting identified
  exact ⟨visits, found, summary, after, prepared, begun.trans extended,
    visited.widen List.suffix_rfl extended.queries⟩

/-- Without the project in scope nothing is swept. -/
theorem sweepIfAsked_lifecycle (host : Host) (program : Program) {options : AnalysisOptions}
    (lifecycle : options.scope = .lifecycle) (scanned : Scanned)
    : sweepIfAsked host program options scanned = pure none := by
  rw [sweepIfAsked, lifecycle]
  rfl

/-- The scan always ends, and its results belong to a beginning of the callbacks. -/
theorem complete_told {host : Host} (accepting : host.Accepting) (program : Program)
    (catalog : Catalog) {options : AnalysisOptions} (fair : options.Fair)
    (found : Identification) (summary : CallGraphSummary) (before : Session)
    : ∃ results errors after,
        outcome (complete host program catalog options found summary) before
          = outcome
              (concluded catalog options found summary
                  ⟨results, errors, results.length < found.records.length⟩
                <$> sweepIfAsked host program options
                  ⟨results, errors, results.length < found.records.length⟩)
              after
        ∧ before.queries <:+ after.queries
        ∧ TellsBeginning host (scanOptionsOf catalog summary) errors before.queries
            after.queries found.records results
        ∧ (results.length < found.records.length → ∃ look, host.stop look = true) := by
  obtain ⟨started, begun, staged⟩ :=
    scanStage_ok accepting catalog options summary found.records before
  obtain ⟨results, errors, middle, done, extended, told, stopped⟩ := scanAll_told host
    (scanOptionsOf catalog summary) options.workers found.records
    (fair found.records.length) started
  obtain ⟨after, scanned, ended⟩ := staged results errors middle done
  refine ⟨results, errors, after, ?_, ?_, ?_, stopped⟩
  · rw [complete, outcome_bind_ok scanned]
  · exact begun.queries.trans (extended.trans ended.queries)
  · exact told.imp fun _ _ told => told.widen (List.Subset.refl _) begun.queries ended.queries

/-- An analysis that nobody stops has scanned every callback before the sweep.
Witness: the scan leaves out callbacks only after a look that said to stop.
-/
theorem run_scanned {catalog : Catalog} (texts : catalog.PatternsAreTexts) {host : Host}
    (accepting : host.Accepting) (patient : host.Patient) (program : Program)
    {options : AnalysisOptions} (fair : options.Fair) (before : Session)
    : ∃ visits found summary results errors after,
        outcome (run host program catalog options) before
          = outcome
              (concluded catalog options found summary ⟨results, errors, false⟩
                <$> sweepIfAsked host program options ⟨results, errors, false⟩)
              after
        ∧ Identification.FoundBy host program catalog options.skipTestFiles.truthy
            before.queries after.queries visits found
        ∧ List.Forall₂
            (Told host (scanOptionsOf catalog summary) errors before.queries after.queries)
            found.records results := by
  obtain ⟨visits, found, summary, middle, prepared, begun, visited⟩ :=
    prepare_isolated texts accepting program options before
  obtain ⟨results, errors, after, done, extended, told, stopped⟩ :=
    complete_told accepting program catalog fair found summary middle
  have whole : ¬ results.length < found.records.length := by
    intro short
    obtain ⟨look, stop⟩ := stopped short
    simp [patient look] at stop
  refine ⟨visits, found, summary, results, errors, after, ?_,
    visited.widen List.suffix_rfl extended, ?_⟩
  · rw [run_eq_prepare_complete, outcome_bind_ok prepared, done, decide_eq_false whole]
  · rw [TellsBeginning, List.take_of_length_le (Nat.le_of_not_lt whole)] at told
    exact told.imp fun _ _ told => told.widen (List.Subset.refl _) begun.queries List.suffix_rfl

-----------------------------------------------------------------------------------------
-- A class to analyze
-----------------------------------------------------------------------------------------

/-- (abilityNamed name) is an ability with one callback, which uses an undefined value. -/
def abilityNamed (name : Text) : ClassDecl where
  name
  filePath := "a.ets"
  superclass := "UIAbility"
  decorators := []
  methods := [{
    name := "onCreate"
    className := name
    signature := Method.defaultSignature "a.ets" name "onCreate"
    filePath := "a.ets"
    line := 1
    column := 0
    cfg := some ⟨[⟨0, [⟨"x = undefined", 2, 0, []⟩]⟩]⟩ }]

end Analysis

end ArkLifecycle
