import ArkLifecycle.Proofs.Analysis.Cancellation
import ArkLifecycle.Proofs.Analysis.SkippedFiles
import ArkLifecycle.Proofs.Scan.Abreast

/-! Who builds the call graph shows in the data flows of an analysis and nowhere else.

A builder may know whatever methods it likes, give any graph, or fail. The scan is only told whether
there is a graph, and what every call chain begins with. So the callbacks, the issues and the moment
at which an analysis is stopped are the same for all builders.
-/

namespace ArkLifecycle

open Activity

-----------------------------------------------------------------------------------------
-- Flows with and without a lead
-----------------------------------------------------------------------------------------

namespace Scan

/-- (led lead flow) is the flow with something before its chain. -/
def led (lead : List Json) (flow : DataFlow) : DataFlow :=
  { flow with chain := lead ++ flow.chain }

/-- (flowsIn record) are the flows that there are to find in a callback, with nothing before their
chains.
-/
def flowsIn (record : Record) : List DataFlow :=
  match bodyIn record with
  | none => []
  | some cfg => cfg.stmts.filterMap (flowOf [] record)

theorem flowOf_led (lead : List Json) (record : Record)
    : flowOf lead record = fun stmt => (flowOf [] record stmt).map (led lead) := by
  funext stmt
  rw [flowOf, flowOf, Option.map_map]
  rfl

theorem scanIn_flows (options : ScanOptions) (record : Record)
    : (scanIn options record).flows
      = if options.extractFlows then (flowsIn record).map (led options.lead) else [] := by
  unfold scanIn flowsIn
  cases bodyIn record with
  | none => simp [nothing]
  | some cfg =>
      rw [List.map_filterMap, ← flowOf_led]
      rfl

/-- The chain of a flow leads from its callback to what is called. -/
theorem chain_of_mem_flowsIn {record : Record} {flow : DataFlow} (member : flow ∈ flowsIn record)
    : ∃ caller callee, flow.chain = [caller, callee] := by
  unfold flowsIn at member
  cases body : bodyIn record with
  | none =>
      rw [body] at member
      cases member
  | some cfg =>
      rw [body] at member
      obtain ⟨stmt, -, given⟩ := List.mem_filterMap.mp member
      obtain ⟨text, -, rfl⟩ := Option.map_eq_some_iff.mp given
      exact ⟨_, _, rfl⟩

end Scan

/-- From every look on there is a number of times that the host says to go on before it says to
stop.
-/
theorem Host.exists_stopsAfter (host : Host) (looks total : Nat)
    : ∃ count, host.StopsAfter looks count total := by
  induction total with
  | zero => exact ⟨0, Nat.le_refl 0, by simp, by simp⟩
  | succ total ih =>
      obtain ⟨count, within, going, stopped⟩ := ih
      by_cases short : count < total
      · exact ⟨count, Nat.le_succ_of_le within, going, fun _ => stopped short⟩
      · cases next : host.stop (looks + count) with
        | true => exact ⟨count, Nat.le_succ_of_le within, going, fun _ => next⟩
        | false =>
            refine ⟨count + 1, by omega, ?_, by omega⟩
            intro index before
            by_cases last : index = count
            · exact last ▸ next
            · exact going index (by omega)

namespace Analysis

-----------------------------------------------------------------------------------------
-- What does not depend on the call graph
-----------------------------------------------------------------------------------------

/-- (leadOf strategy) is what every chain begins with when the roots were chosen in this way. -/
def leadOf (strategy : Strategy) : List Json :=
  if strategy = .syntheticEntry then [.text EntryMethod.key] else []

/-- Two flows are the same up to what their chains begin with. -/
def SameBeyond (lead other : List Json) (left right : DataFlow) : Prop :=
  left.source = right.source
  ∧ left.target = right.target
  ∧ left.line = right.line
  ∧ ∃ caller callee, left.chain = lead ++ [caller, callee] ∧ right.chain = other ++ [caller, callee]

/-- Two analyses are the same up to their call graphs and what the chains of flows begin with, and
up to all flows if one of them has no call graph.
-/
structure SameButGraph (left right : Analysis) : Prop extends SameCallbacks left right where
  analyzed : left.stats.analyzedMethods = right.stats.analyzedMethods
  cancelled : left.cancelled = right.cancelled
  flows
    : left.callGraph.graph.isSome = true
      → right.callGraph.graph.isSome = true
      → List.Forall₂
          (SameBeyond (leadOf left.callGraph.strategy) (leadOf right.callGraph.strategy))
          left.flows right.flows

/-- If there is no call graph, flows were not looked for. -/
def SkipsFlows (result : Analysis) : Prop :=
  result.callGraph.graph = none
  → result.flowStatus = "skipped"
    ∧ result.stats.callGraphNodes = 0
    ∧ result.stats.callGraphEdges = 0
    ∧ result.flows = []

/-- What was found in some callbacks, with the call graph that was there. -/
def FoundIn (catalog : Catalog) (summary : CallGraphSummary) (records : List Record)
    (results : List ScanResult)
    : Prop :=
  results.map ScanResult.findings = records.map (Scan.scanIn (scanOptionsOf catalog summary))

section Found

variable {catalog : Catalog} {summary : CallGraphSummary} {records : List Record}
  {results : List ScanResult}

theorem FoundIn.flows (found : FoundIn catalog summary records results)
    : results.flatMap ScanResult.flows
      = if summary.graph.isSome
        then (records.flatMap Scan.flowsIn).map (Scan.led (leadOf summary.strategy))
        else [] := by
  have flows := congrArg (List.flatMap ScanResult.flows) found
  simp only [List.flatMap_map, ScanResult.findings_flows, Scan.scanIn_flows] at flows
  rw [flows]
  cases present : summary.graph.isSome with
  | true =>
      simp only [scanOptionsOf, present, if_true, List.map_flatMap]
      rfl
  | false => simp [scanOptionsOf, present]

theorem FoundIn.issues (found : FoundIn catalog summary records results)
    : results.flatMap ScanResult.issues
      = records.flatMap (Scan.issuesIn catalog.weakSignals) := by
  have issues := congrArg (List.flatMap ScanResult.issues) found
  simp only [List.flatMap_map, ScanResult.findings_issues, Scan.scanIn_issues] at issues
  exact issues

theorem FoundIn.analyzed (found : FoundIn catalog summary records results)
    : (results.filter ScanResult.analyzed).length
      = records.countP fun record => (Scan.bodyIn record).isSome := by
  have analyzed := congrArg (List.countP ScanResult.analyzed) found
  simp only [List.countP_map, Function.comp_def, ScanResult.findings_analyzed,
    Scan.scanIn_analyzed] at analyzed
  rw [← List.countP_eq_length_filter]
  exact analyzed

/-- Witness: flows with a lead are the flows without one, with the lead before them. -/
theorem FoundIn.sameBeyond (found : FoundIn catalog summary records results)
    {other : CallGraphSummary} {more : List ScanResult}
    (also : FoundIn catalog other records more) (present : summary.graph.isSome = true)
    (there : other.graph.isSome = true)
    : List.Forall₂ (SameBeyond (leadOf summary.strategy) (leadOf other.strategy))
        (results.flatMap ScanResult.flows) (more.flatMap ScanResult.flows) := by
  rw [found.flows, if_pos present, also.flows, if_pos there, List.forall₂_map_left_iff,
    List.forall₂_map_right_iff, List.forall₂_same]
  intro flow member
  obtain ⟨record, -, inside⟩ := List.mem_flatMap.mp member
  obtain ⟨caller, callee, chain⟩ := Scan.chain_of_mem_flowsIn inside
  exact ⟨rfl, rfl, rfl, caller, callee, congrArg _ chain, congrArg _ chain⟩

end Found

/-- Without a call graph an analysis has no flows. -/
theorem concluded_skipsFlows {catalog : Catalog} {summary : CallGraphSummary}
    {records : List Record} {results : List ScanResult}
    (given : FoundIn catalog summary records results) (options : AnalysisOptions)
    (found : Identification) (errors : List StageError) (cancelled : Bool)
    (sweep : Option Sweep)
    : SkipsFlows
        (concluded catalog options found summary ⟨results, errors, cancelled⟩ sweep) := by
  intro absent
  have absent : summary.graph = none := absent
  refine ⟨?_, ?_, ?_, ?_⟩
  · simp [concluded, flowStatusOf, absent]
  · simp [concluded, statsOf, CallGraphSummary.nodeCount, absent]
  · simp [concluded, statsOf, CallGraphSummary.edgeCount, absent]
  · exact given.flows.trans (by simp [absent])

/-- Analyses that cover the same callbacks and are stopped alike are the same up to the call graph.
-/
theorem concluded_sameButGraph {catalog : Catalog} {summary other : CallGraphSummary}
    {records : List Record} {results more : List ScanResult}
    (given : FoundIn catalog summary records results)
    (also : FoundIn catalog other records more) (options others : AnalysisOptions)
    (found : Identification) (errors mistakes : List StageError) (cancelled : Bool)
    {sweep swept : Option Sweep} (same : sweep.map Sweep.cancelled = swept.map Sweep.cancelled)
    : SameButGraph
        (concluded catalog options found summary ⟨results, errors, cancelled⟩ sweep)
        (concluded catalog others found other ⟨more, mistakes, cancelled⟩ swept) := by
  constructor
  case toSameCallbacks => exact ⟨rfl, rfl, rfl, given.issues.trans also.issues.symm, rfl, rfl⟩
  case analyzed => exact given.analyzed.trans also.analyzed.symm
  case cancelled =>
    cases sweep with
    | none =>
        cases swept with
        | none => rfl
        | some sweep => cases same
    | some sweep =>
        cases swept with
        | none => cases same
        | some other => exact Option.some.inj same
  case flows => exact given.sameBeyond also

-----------------------------------------------------------------------------------------
-- Two builders
-----------------------------------------------------------------------------------------

/-- To the end of the part before the scan nobody looks whether to stop. -/
theorem prepare_looks {host : Host} {program : Program} {catalog : Catalog}
    {options : AnalysisOptions} {found : Identification} {summary : CallGraphSummary}
    {before middle : Session}
    (prepared
      : outcome (prepare host program catalog options) before = (.ok (found, summary), middle))
    : middle.looks = before.looks := by
  have quiet := (prepare_quiet host program catalog options before).looks
  rwa [prepared] at quiet

section Builders

variable {host : Host} (obliging : host.Obliging) (accepting : host.Accepting)
  (program : Program) (catalog : Catalog) (options : AnalysisOptions) (fair : options.Fair)
  (backend : Option Backend) (nodeLimit : Option Json)

include obliging accepting fair in
/-- With two call graphs the scan covers the same callbacks. -/
theorem scanStage_abreast (summary other : CallGraphSummary) (records : List Record)
    : Abreast
        (fun left right =>
          left.cancelled = right.cancelled
          ∧ ∃ count,
              FoundIn catalog summary (records.take count) left.results
              ∧ FoundIn catalog other (records.take count) right.results)
        (scanStage host catalog options summary records)
        (scanStage host catalog { options with backend, nodeLimit } other records) := by
  intro before elsewhere looks
  obtain ⟨started, begun, staged⟩ :=
    scanStage_ok accepting catalog options summary records before
  obtain ⟨beginning, alsoBegun, alsoStaged⟩ :=
    scanStage_ok accepting catalog { options with backend, nodeLimit } other records elsewhere
  obtain ⟨⟨results, errors⟩, ⟨more, mistakes⟩, middle, between, done, also, looks, length⟩ :=
    scanAll_abreast host (scanOptionsOf catalog summary) (scanOptionsOf catalog other)
      options.workers options.schedule records started beginning
      (begun.looks.trans (looks.trans alsoBegun.looks.symm))
  -- What is told of a beginning of the callbacks is told of the results at hand.
  have told {summary : CallGraphSummary} {results : List ScanResult} {errors : List StageError}
      {before after : Session}
      (done
        : outcome
            (scanAll host (scanOptionsOf catalog summary) options.workers options.schedule records)
            before
          = (.ok (results, errors), after))
      : FoundIn catalog summary (records.take results.length) results := by
    obtain ⟨given, faults, later, ended, -, told, -⟩ := scanAll_told host
      (scanOptionsOf catalog summary) options.workers records (fair records.length) before
    rw [done] at ended
    cases ended
    exact map_findings_obliged told obliging
  obtain ⟨after, scanned, ended⟩ := staged results errors middle done
  obtain ⟨afterwards, alsoScanned, alsoEnded⟩ := alsoStaged more mistakes between also
  refine ⟨_, _, after, afterwards, scanned, alsoScanned,
    ended.looks.trans (looks.trans alsoEnded.looks.symm), ?_, results.length, told done, ?_⟩
  · exact congrArg (fun covered => decide (covered < records.length)) length
  · have found := told also
    rwa [← length] at found

include obliging accepting in
/-- Sweeps after scans that were stopped alike are stopped alike.
Witness: both look once before each class, from the same look on.
-/
theorem sweepIfAsked_cancelled {left right : Scanned} (same : left.cancelled = right.cancelled)
    {before elsewhere : Session} (looks : before.looks = elsewhere.looks)
    : ∃ sweep after swept afterwards,
        outcome (sweepIfAsked host program options left) before = (.ok sweep, after)
        ∧ outcome (sweepIfAsked host program { options with backend, nodeLimit } right) elsewhere
          = (.ok swept, afterwards)
        ∧ sweep.map Sweep.cancelled = swept.map Sweep.cancelled := by
  unfold sweepIfAsked
  rw [← same]
  by_cases asked : options.scope = .project ∧ !left.cancelled
  · obtain ⟨count, stops⟩ := host.exists_stopsAfter before.looks
      (Sweep.sites options.skipTestFiles.truthy program.files).length
    obtain ⟨sweep, after, -, -, done, -, -, cancelled⟩ :=
      sweepStage_stopsAfter obliging accepting program options before stops
    rw [looks] at stops
    obtain ⟨swept, afterwards, -, -, also, -, -, alsoCancelled⟩ := sweepStage_stopsAfter obliging
      accepting program { options with backend, nodeLimit } elsewhere stops
    refine ⟨some sweep, after, some swept, afterwards, ?_, ?_, ?_⟩
    · rw [if_pos asked, outcome_map, done]
      rfl
    · rw [if_pos asked, outcome_map, also]
      rfl
    · exact congrArg some (cancelled.trans alsoCancelled.symm)
  · rw [if_neg asked, if_neg asked]
    exact ⟨none, before, none, elsewhere, rfl, rfl, rfl⟩

include obliging accepting fair in
/-- The builder of the call graph cannot influence anything but the data flows. Two analyses that
differ in nothing else fail in the same way, because a pattern of the catalog is no text, or are the
same up to their call graphs and up to the flows. An analysis without a call graph has no flows; if
both have one, the flows are the same up to what their chains begin with.
Witness: the scan looks up whether to stop once for each callback, whatever it is to find.
-/
theorem run_sameButGraph {before elsewhere : Session} (looks : before.looks = elsewhere.looks)
    : (¬ catalog.PatternsAreTexts
        ∧ ∃ fault,
          (outcome (run host program catalog options) before).1 = .error fault
          ∧ (outcome (run host program catalog { options with backend, nodeLimit })
              elsewhere).1
            = .error fault)
      ∨ ∃ result after other afterwards,
          outcome (run host program catalog options) before = (.ok result, after)
          ∧ outcome (run host program catalog { options with backend, nodeLimit }) elsewhere
            = (.ok other, afterwards)
          ∧ SameButGraph result other
          ∧ SkipsFlows result
          ∧ SkipsFlows other := by
  obtain ⟨identified, done⟩ :=
    identifyStage_obliged obliging accepting program catalog options before
  obtain ⟨alsoIdentified, also⟩ := identifyStage_obliged obliging accepting program catalog
    { options with backend, nodeLimit } elsewhere
  cases told : Identification.identifyIn program catalog options.skipTestFiles.truthy with
  | error fault =>
      exact Or.inl ⟨Identification.not_texts_of_identifyIn told, fault,
        run_unidentified obliging accepting options told before,
        run_unidentified obliging accepting { options with backend, nodeLimit } told elsewhere⟩
  | ok found =>
      rw [told] at done also
      obtain ⟨summary, middle, prepared, -⟩ := prepare_identified accepting done
      obtain ⟨other, between, alsoPrepared, -⟩ := prepare_identified accepting also
      have level : middle.looks = between.looks := by
        rw [prepare_looks prepared, prepare_looks alsoPrepared, looks]
      obtain ⟨⟨results, errors, cancelled⟩, ⟨more, mistakes, _⟩, scanned, alsoScanned, scan,
          alsoScan, level, same, count, given, alsoGiven⟩ :=
        scanStage_abreast obliging accepting catalog options fair backend nodeLimit summary other
          found.records middle between level
      obtain ⟨sweep, after, swept, afterwards, ended, alsoEnded, stopped⟩ :=
        sweepIfAsked_cancelled obliging accepting program options backend nodeLimit same level
      cases same
      refine Or.inr ⟨_, after, _, afterwards, ?_, ?_,
        concluded_sameButGraph given alsoGiven options { options with backend, nodeLimit } found
          errors mistakes cancelled stopped,
        concluded_skipsFlows given _ _ _ _ _, concluded_skipsFlows alsoGiven _ _ _ _ _⟩
      · rw [run_eq_prepare_complete, outcome_bind_ok prepared]
        exact complete_scanned scan ended
      · rw [run_eq_prepare_complete, outcome_bind_ok alsoPrepared]
        exact complete_scanned alsoScan alsoEnded

end Builders

/-- (unable) is a builder that knows no method and gives no call graph. -/
def unable : Backend :=
  .external (fun _ => .ok false) (fun _ => .error (.collaborator "no graph"))

/-- A project is analyzed with this library's call graph and without any. The host says to stop
before the second callback.
-/
theorem run_sameButGraph_unable
    : impatient.Obliging
      ∧ impatient.Accepting
      ∧ wholeProject.Fair
      ∧ ∃ result after other afterwards,
          outcome
              (run impatient (.ofFiles [⟨"a.ets", [abilityNamed "A", abilityNamed "B"]⟩]) .standard
                wholeProject)
              .fresh
            = (.ok result, after)
          ∧ outcome
              (run impatient (.ofFiles [⟨"a.ets", [abilityNamed "A", abilityNamed "B"]⟩]) .standard
                { wholeProject with backend := some unable })
              .fresh
            = (.ok other, afterwards)
          ∧ SameButGraph result other
          ∧ SkipsFlows result
          ∧ SkipsFlows other := by
  have obliging : impatient.Obliging := fun _ _ => rfl
  have accepting : impatient.Accepting := fun _ => rfl
  have fair : wholeProject.Fair := fun tasks => .refl (List.range tasks)
  exact ⟨obliging, accepting, fair,
    (run_sameButGraph obliging accepting
      (.ofFiles [⟨"a.ets", [abilityNamed "A", abilityNamed "B"]⟩]) .standard wholeProject fair
      (some unable) none rfl).resolve_left fun failed => failed.1 Catalog.standard_texts⟩

end Analysis

end ArkLifecycle
