import ArkLifecycle.Proofs.Analysis.ErrorOrder
import ArkLifecycle.Proofs.CallGraph.Roots
import ArkLifecycle.Proofs.Identification.Unhindered

/-! The analysis that nobody hinders.

When no question is denied, no event is refused and nobody says to stop, an analysis depends on the
program, the catalog and the options alone. What it gives is put together here from the parts.
-/

namespace ArkLifecycle.Analysis

open Activity

-----------------------------------------------------------------------------------------
-- The parts
-----------------------------------------------------------------------------------------

/-- (summaryIn program limit records) is the call graph from the virtual entry method on, or the
message of the fault that prevents it.
-/
def summaryIn (program : Program) (limit : Option Json) (records : List Record)
    : CallGraphSummary :=
  match
    CallGraph.buildIn program [EntryMethod.ofRecords records] limit [EntryMethod.signature]
  with
  | .ok graph => ⟨some graph, .syntheticEntry, [EntryMethod.signature], none⟩
  | .error fault => ⟨none, .syntheticEntry, [EntryMethod.signature], some fault.message⟩

/-- (scannedIn catalog summary records) are the true findings of all callbacks. -/
def scannedIn (catalog : Catalog) (summary : CallGraphSummary) (records : List Record)
    : Scanned :=
  ⟨records.map (Scan.scanIn (scanOptionsOf catalog summary)), [], false⟩

/-- The library knows the entry method of an analysis, and begins with it.
Witness: of the synthetic methods it is given, the entry method is the only one.
-/
theorem build_obliged {host : Host} (obliging : host.Obliging) (program : Program)
    (limit : Option Json) (records : List Record) (before : Session)
    : ∃ after,
        outcome
            (CallGraphSummary.build (.hierarchy [EntryMethod.ofRecords records] limit) host
              program records)
            before
          = (.ok (summaryIn program limit records), after) := by
  obtain ⟨after, built⟩ := CallGraphSummary.build_chosen obliging
    (CallGraphSummary.chooseRoots_entry program limit records records before)
    (List.cons_ne_nil _ _)
  exact ⟨after, built⟩

theorem identifyStage_obliged {host : Host} (obliging : host.Obliging)
    (accepting : host.Accepting) (program : Program) (catalog : Catalog)
    (options : AnalysisOptions) (before : Session)
    : ∃ after,
        outcome (identifyStage host program catalog options) before
          = (Identification.identifyIn program catalog options.skipTestFiles.truthy, after) := by
  obtain ⟨middle, identified⟩ := Identification.identify_obliged obliging program catalog
    options.skipTestFiles.truthy
    ((before.logEvent (.stageStart (.text "identify")
      [("catalog_version", .text catalog.version)])).openSpan (.text "stage.identify"))
  unfold identifyStage
  cases told : Identification.identifyIn program catalog options.skipTestFiles.truthy with
  | error fault =>
      rw [told] at identified
      exact ⟨_, (outcome_bind_ok (outcome_log accepting _ _)).trans
        (outcome_bind_error (outcome_span identified))⟩
  | ok found =>
      rw [told] at identified
      exact ⟨_, outcome_between accepting _ _ (outcome_span identified)⟩

theorem callGraphStage_obliged {host : Host} (obliging : host.Obliging)
    (accepting : host.Accepting) (program : Program) {options : AnalysisOptions}
    (default : options.backend = none) (records : List Record) (before : Session)
    : ∃ after,
        outcome
            (callGraphStage host program options (EntryMethod.ofRecords records) records) before
          = (.ok (summaryIn program options.nodeLimit records), after) := by
  obtain ⟨middle, built⟩ := build_obliged obliging program options.nodeLimit records
    (before.logEvent (.stageStart (.text "callgraph") []))
  unfold callGraphStage
  rw [default]
  exact ⟨_, outcome_between accepting _ _ built⟩

/-- Without a backend of its own, the part before the scan depends on the program, the catalog and
the options alone.
-/
theorem prepare_obliged {host : Host} (obliging : host.Obliging) (accepting : host.Accepting)
    (program : Program) (catalog : Catalog) {options : AnalysisOptions}
    (default : options.backend = none) (before : Session)
    : ∃ after,
        outcome (prepare host program catalog options) before
          = ((Identification.identifyIn program catalog options.skipTestFiles.truthy).map
              fun found => (found, summaryIn program options.nodeLimit found.records), after) := by
  obtain ⟨middle, identified⟩ :=
    identifyStage_obliged obliging accepting program catalog options before
  unfold prepare
  cases told : Identification.identifyIn program catalog options.skipTestFiles.truthy with
  | error fault =>
      rw [told] at identified
      exact ⟨middle, outcome_bind_error identified⟩
  | ok found =>
      rw [told] at identified
      obtain ⟨after, built⟩ := callGraphStage_obliged obliging accepting program default
        found.records (middle.logEvent ⟨.text "entry.synthesized",
          [("signature", .text (EntryMethod.ofRecords found.records).signature),
            ("call_count", .ofNat (EntryMethod.ofRecords found.records).calls.length)]⟩)
      refine ⟨after, ?_⟩
      rw [outcome_bind_ok identified, outcome_bind_ok (outcome_log accepting _ _),
        outcome_bind_ok built]
      rfl

/-- From the scan on, an analysis that nobody hinders has the true findings of all callbacks and no
errors of its own.
-/
theorem complete_obliged {host : Host} (obliging : host.Obliging) (accepting : host.Accepting)
    (patient : host.Patient) (program : Program) (catalog : Catalog) {options : AnalysisOptions}
    (fair : options.Fair) (found : Identification) (summary : CallGraphSummary)
    (before : Session)
    : ∃ sweep after,
        outcome (complete host program catalog options found summary) before
          = (.ok (concluded catalog options found summary
              (scannedIn catalog summary found.records) sweep), after)
        ∧ (options.scope = .lifecycle → sweep = none) := by
  obtain ⟨count, result, after, done, ⟨results, errors, sweep, same, unswept, -, findings⟩,
    whole⟩ :=
    complete_covers obliging accepting program catalog fair found summary before
  have settled : host.SettledFrom before.queries found.records (fun _ => none) :=
    fun history _ _ _ method _ => obliging history (.body method)
  have none : errors = [] := by
    have reported := (complete_errors accepting patient program catalog fair found summary
      settled).1 result after done
    have faultless (record : Record) : failures (fun _ => none) record = [] := by
      unfold failures
      cases record.method <;> simp
    have unfailing
        : failuresBy options.workers options.schedule (fun _ => none) found.records = [] := by
      have listed
          : (failuresBy options.workers options.schedule (fun _ => none) found.records).Perm
              (found.records.flatMap (failures fun _ => none)) :=
        failuresBy_perm options.workers (fair found.records.length)
      rw [List.flatMap_eq_nil_iff.mpr fun record _ => faultless record] at listed
      exact listed.eq_nil
    rw [same, unfailing] at reported
    exact List.append_cancel_left reported
  rw [whole patient, List.take_length] at findings
  have length : results.length = found.records.length := by
    simpa using congrArg List.length findings
  have flows := congrArg (List.flatMap ScanResult.flows) findings
  have issues := congrArg (List.flatMap ScanResult.issues) findings
  have analyzed := congrArg (List.countP ScanResult.analyzed) findings
  simp only [List.flatMap_map, ScanResult.findings_flows] at flows
  simp only [List.flatMap_map, ScanResult.findings_issues] at issues
  simp only [List.countP_map, Function.comp_def, ScanResult.findings_analyzed] at analyzed
  refine ⟨sweep, after, ?_, unswept⟩
  rw [done, same, none]
  simp only [concluded, scannedIn, statsOf, Scanned.flows, Scanned.issues, Scanned.analyzed,
    ← List.countP_eq_length_filter, List.flatMap_map, List.countP_map, Function.comp_def, flows,
    issues, analyzed, length, Nat.lt_irrefl, decide_false]

-----------------------------------------------------------------------------------------
-- Whole analyses
-----------------------------------------------------------------------------------------

variable {host : Host} (obliging : host.Obliging) (accepting : host.Accepting)

include obliging accepting in
/-- An analysis fails when the identification does. -/
theorem run_unidentified {program : Program} {catalog : Catalog} (options : AnalysisOptions)
    {fault : Fault}
    (failed
      : Identification.identifyIn program catalog options.skipTestFiles.truthy = .error fault)
    (before : Session)
    : (outcome (run host program catalog options) before).1 = .error fault := by
  obtain ⟨after, identified⟩ :=
    identifyStage_obliged obliging accepting program catalog options before
  rw [failed] at identified
  rw [run, outcome_bind_error identified]

include obliging accepting in
/-- An analysis that nobody hinders is put together from what is identified. -/
theorem run_identified (patient : host.Patient) {program : Program} {catalog : Catalog}
    {options : AnalysisOptions} (fair : options.Fair) (default : options.backend = none)
    {found : Identification}
    (identified
      : Identification.identifyIn program catalog options.skipTestFiles.truthy = .ok found)
    (before : Session)
    : ∃ sweep after,
        outcome (run host program catalog options) before
          = (.ok (concluded catalog options found
              (summaryIn program options.nodeLimit found.records)
              (scannedIn catalog (summaryIn program options.nodeLimit found.records)
                found.records)
              sweep), after)
        ∧ (options.scope = .lifecycle → sweep = none) := by
  obtain ⟨middle, prepared⟩ :=
    prepare_obliged obliging accepting program catalog default before
  rw [identified] at prepared
  rw [run_eq_prepare_complete, outcome_bind_ok prepared]
  exact complete_obliged obliging accepting patient program catalog fair found _ middle

end ArkLifecycle.Analysis
