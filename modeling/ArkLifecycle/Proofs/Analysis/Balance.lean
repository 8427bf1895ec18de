import ArkLifecycle.Proofs.Analysis.FaultIsolation
import ArkLifecycle.Proofs.Coverage.Tally
import ArkLifecycle.Proofs.Identification.Collection
import ArkLifecycle.Report

/-! The numbers of an analysis balance.

Six parts of an analysis count on their own: the identification, the entry method, the scan, the
tracker, the numbers of the result, and the report. Whatever is denied and whenever the analysis is
stopped, what they count is the same, or one is a bound for the other.
-/

namespace ArkLifecycle

open Activity

-----------------------------------------------------------------------------------------
-- Records of an identification
-----------------------------------------------------------------------------------------

namespace Identification

/-- The record is that of a method, and the catalog lists its name. -/
structure Grounded (catalog : Catalog) (record : Record) : Prop where
  listed : .text record.methodName ∈ catalog.names record.kind
  body
    : ∃ method, record.method = some method ∧ record.hasImplementation = method.hasImplementation

theorem grounded_of_mem_recordsAs {catalog : Catalog} {decl : ClassDecl} {role : Role}
    {record : Record} (member : record ∈ recordsAs catalog decl role)
    : Grounded catalog record := by
  obtain ⟨method, -, kind, listed, rfl⟩ := of_mem_recordsAs member
  exact ⟨listed.2, method, rfl, rfl⟩

theorem Collects.grounded {catalog : Catalog} {classes : List (ClassDecl × Role)}
    {found final : Identification} (collects : Collects catalog classes found final)
    (blank : found.records = []) {record : Record} (member : record ∈ final.records)
    : Grounded catalog record := by
  rcases collects.records member with earlier | ⟨classified, -, given⟩
  · rw [blank] at earlier
    cases earlier
  · exact grounded_of_mem_recordsAs given

end Identification

-----------------------------------------------------------------------------------------
-- Scanned callbacks
-----------------------------------------------------------------------------------------

/-- A callback has a body to scan exactly if it has an implementation. -/
theorem Identification.Grounded.bodyIn_isSome {catalog : Catalog} {record : Record}
    (grounded : Grounded catalog record)
    : (Scan.bodyIn record).isSome = record.hasImplementation := by
  obtain ⟨method, given, same⟩ := grounded.body
  rw [Scan.bodyIn, given, same, Method.hasImplementation, Option.bind_some]
  cases method.cfg with
  | none => rfl
  | some cfg => cases empty : cfg.isEmpty <;> simp [Method.isImplemented, empty]

theorem Scan.hasImplementation_of_bodyIn {record : Record}
    (present : (Scan.bodyIn record).isSome = true)
    : record.hasImplementation = true := by
  unfold Scan.bodyIn at present
  split at present
  · assumption
  · cases present

namespace Analysis

/-- Only callbacks with an implementation count as analyzed. -/
theorem Told.implemented {host : Host} {options : ScanOptions} {errors : List StageError}
    {start finish : List Query} {record : Record} {result : ScanResult}
    (told : Told host options errors start finish record result)
    (analyzed : result.analyzed = true)
    : record.hasImplementation = true := by
  rcases told with same | ⟨rfl, -⟩
  · rw [← ScanResult.findings_analyzed, same, Scan.scanIn_analyzed] at analyzed
    exact Scan.hasImplementation_of_bodyIn analyzed
  · cases analyzed

/-- Without errors of the scan, callbacks with an implementation are analyzed. -/
theorem Told.analyzed {host : Host} {catalog : Catalog} {options : ScanOptions}
    {errors : List StageError} {start finish : List Query} {record : Record}
    {result : ScanResult} (told : Told host options errors start finish record result)
    (clean : ∀ method message, .scan method message ∉ errors)
    (grounded : Identification.Grounded catalog record)
    : result.analyzed = record.hasImplementation := by
  rcases told with same | ⟨-, ⟨message, listed⟩, -⟩
  · rw [← ScanResult.findings_analyzed, same, Scan.scanIn_analyzed, grounded.bodyIn_isSome]
  · exact absurd listed (clean _ _)

/-- No more callbacks count as analyzed than have an implementation.
Witness: induction over the callbacks that were scanned; the others are left out on both sides.
-/
theorem TellsBeginning.analyzed_le {host : Host} {options : ScanOptions}
    {errors : List StageError} {start finish : List Query} {records : List Record}
    {results : List ScanResult}
    (told : TellsBeginning host options errors start finish records results)
    : (results.filter ScanResult.analyzed).length
      ≤ (records.filter Record.hasImplementation).length := by
  have counted {some : List Record} {given : List ScanResult}
      (told : List.Forall₂ (Told host options errors start finish) some given)
      : given.countP ScanResult.analyzed ≤ some.countP Record.hasImplementation := by
    induction told with
    | nil => exact Nat.le_refl _
    | @cons record result _ _ told _ ih =>
        simp only [List.countP_cons]
        have implied := told.implemented
        cases analyzed : result.analyzed with
        | false => simp only [Bool.false_eq_true, if_false]; omega
        | true => simp only [implied analyzed, if_true]; omega
  rw [← List.countP_eq_length_filter, ← List.countP_eq_length_filter]
  exact Nat.le_trans (counted told) (List.take_sublist _ records).countP_le

/-- When all callbacks were scanned without an error, as many count as analyzed as have an
implementation.
-/
theorem TellsBeginning.analyzed_eq {host : Host} {catalog : Catalog} {options : ScanOptions}
    {errors : List StageError} {start finish : List Query} {records : List Record}
    {results : List ScanResult}
    (told : TellsBeginning host options errors start finish records results)
    (whole : ¬ results.length < records.length)
    (clean : ∀ method message, .scan method message ∉ errors)
    (grounded : ∀ record ∈ records, Identification.Grounded catalog record)
    : (results.filter ScanResult.analyzed).length
      = (records.filter Record.hasImplementation).length := by
  rw [TellsBeginning, List.take_of_length_le (Nat.le_of_not_lt whole)] at told
  rw [← List.countP_eq_length_filter, ← List.countP_eq_length_filter]
  clear whole
  induction told with
  | nil => rfl
  | @cons record result _ _ told _ ih =>
      have same := told.analyzed clean (grounded record List.mem_cons_self)
      have rest := ih fun record member => grounded record (List.mem_cons_of_mem _ member)
      rw [List.countP_cons, List.countP_cons, same, rest]

-----------------------------------------------------------------------------------------
-- Whole analyses
-----------------------------------------------------------------------------------------

/-- What the parts of an analysis count fits together. The first number is that of the classes in
the files that are not skipped.
-/
structure Balances (classes : Nat) (found : Identification) (result : Analysis) : Prop where
  classes : result.stats.totalClasses + found.skippedClasses = classes
  roles : result.stats.abilityClasses + result.stats.componentClasses ≤ result.stats.totalClasses
  callbacks : result.stats.lifecycleMethods = result.records.length
  usage
    : ((result.snapshot.coverage.flatMap Prod.snd).map CoverageStat.usageCount).sum
      = result.records.length
  ranked : (result.snapshot.byUsage.map fun entry => entry.2.2).sum = result.records.length
  implemented
    : ((result.snapshot.coverage.flatMap Prod.snd).map CoverageStat.implementedCount).sum
      = result.entry.calls.length
  analyzed : result.stats.analyzedMethods ≤ result.entry.calls.length
  called : result.entry.calls.length ≤ result.stats.lifecycleMethods
  methods : result.stats.lifecycleMethods ≤ result.stats.totalMethods
  whole
    : result.cancelled = false
      → (∀ method message, .scan method message ∉ result.errors)
      → result.stats.analyzedMethods = result.entry.calls.length
  flows : result.stats.dataFlowPaths = result.flows.length
  sources : (result.snapshot.byFlows.map Prod.snd).sum = result.flows.length
  severities
    : ∀ catalog,
        ((Report.of result catalog).bySeverity.map Prod.snd).sum = result.stats.undefinedIssues

/-- The first stage collects the examined classes. -/
theorem identifyStage_collects {catalog : Catalog} (texts : catalog.PatternsAreTexts)
    {host : Host} (accepting : host.Accepting) (program : Program) (options : AnalysisOptions)
    (before : Session)
    : ∃ chosen classified found after,
        Identification.candidates catalog options.skipTestFiles.truthy program.files = .ok chosen
        ∧ outcome (identifyStage host program catalog options) before = (.ok found, after)
        ∧ classified.map Prod.fst = chosen.classes
        ∧ Identification.Collects catalog classified
            (Identification.blank program.files.length chosen) found := by
  rcases Identification.identify_collects host program catalog options.skipTestFiles.truthy
      ((before.logEvent (.stageStart (.text "identify")
        [("catalog_version", .text catalog.version)])).openSpan (.text "stage.identify"))
    with ⟨no, -⟩ | ⟨chosen, classified, found, after, listed, done, same, -, collects⟩
  · exact absurd texts no
  · refine ⟨chosen, classified, found, _, listed,
      outcome_between accepting _ _ (outcome_span done), ?_, collects⟩
    rw [same, (Identification.candidates_partition listed).1]

theorem sum_bySeverity (issues : List RiskIssue)
    : ((Report.countSeverities issues).map Prod.snd).sum = issues.length := by
  have once (issue : RiskIssue)
      : Severity.all.countP (fun severity => issue.severity = severity) = 1 := by
    cases issue.severity <;> rfl
  rw [Report.countSeverities, List.map_map, ← sum_countP_eq_length fun issue _ => once issue]
  simp only [List.countP_eq_length_filter]
  rfl

/-- An analysis that is put together from collected classes and scanned callbacks balances. -/
theorem concluded_balances {catalog : Catalog} (listsOnce : catalog.ListsOnce)
    {skipTests : Bool} {files : List SourceFile} {totalFiles : Nat} {chosen : Candidates}
    (listed : Identification.candidates catalog skipTests files = .ok chosen)
    {classified : List (ClassDecl × Role)} (same : classified.map Prod.fst = chosen.classes)
    {found : Identification}
    (collects
      : Identification.Collects catalog classified (Identification.blank totalFiles chosen) found)
    {host : Host} {summary : CallGraphSummary} {errors : List StageError}
    {start finish : List Query} {results : List ScanResult}
    (told
      : TellsBeginning host (scanOptionsOf catalog summary) errors start finish found.records
          results)
    (options : AnalysisOptions)
    : Balances
        (Program.classesOf (files.filter (!Identification.isSkipped skipTests ·))).length found
        (concluded catalog options found summary
          ⟨results, errors, results.length < found.records.length⟩ none) := by
  have tallied := collects.tallied ⟨Nat.le_refl _, Nat.le_refl _⟩
  have grounded (record : Record) (member : record ∈ found.records) :=
    collects.grounded rfl member
  have known (record : Record) (member : record ∈ found.records) :=
    (grounded record member).listed
  have partition := (Identification.candidates_partition listed).2
  have calls
      : (EntryMethod.ofRecords found.records).calls.length
        = (found.records.filter Record.hasImplementation).length := by
    rw [EntryMethod.ofRecords, EntryMethod.callsOf, List.length_map]
  constructor
  case classes =>
    have counted := collects.totalClasses
    have length := congrArg List.length same
    rw [List.length_map] at length
    rw [← partition, ← length]
    simp only [concluded, statsOf, counted, collects.skippedClasses, Identification.blank,
      Nat.zero_add]
  case roles => exact tallied.roles
  case callbacks => rfl
  case usage =>
    rw [concluded, Tracker.foldFlows_foldAll_ofCatalog]
    exact Tracker.sum_usageCount listsOnce known
  case ranked =>
    rw [concluded, Tracker.foldFlows_foldAll_ofCatalog]
    exact Tracker.sum_byUsage known
  case implemented =>
    rw [concluded, Tracker.foldFlows_foldAll_ofCatalog, calls]
    exact Tracker.sum_implementedCount listsOnce known
  case analyzed => exact told.analyzed_le.trans_eq calls.symm
  case called => exact calls.trans_le (List.length_filter_le _ _)
  case methods => exact tallied.records
  case whole =>
    intro finished clean
    refine (told.analyzed_eq (of_decide_eq_false finished) ?_ grounded).trans calls.symm
    exact fun method message member => clean method message (List.mem_append_right _ member)
  case flows => rfl
  case sources =>
    rw [concluded, Tracker.foldFlows_foldAll_ofCatalog, Tracker.sum_byFlows, List.length_map]
  case severities => exact fun _ => sum_bySeverity _

/-- An analysis of the callbacks alone always ends, and its numbers balance, whatever is denied to
it and whenever it is stopped.
Witness: the records are those of the examined classes, and the scan tells of a beginning of them.
-/
theorem run_balances {catalog : Catalog} (texts : catalog.PatternsAreTexts)
    (listsOnce : catalog.ListsOnce) {host : Host} (accepting : host.Accepting)
    (program : Program) {options : AnalysisOptions} (fair : options.Fair)
    (lifecycle : options.scope = .lifecycle) (before : Session)
    : ∃ found middle result after,
        outcome (identifyStage host program catalog options) before = (.ok found, middle)
        ∧ outcome (run host program catalog options) before = (.ok result, after)
        ∧ Balances
            (Program.classesOf (program.files.filter
              (!Identification.isSkipped options.skipTestFiles.truthy ·))).length
            found result := by
  obtain ⟨chosen, classified, found, middle, listed, identified, same, collects⟩ :=
    identifyStage_collects texts accepting program options before
  obtain ⟨summary, prepared, done, -⟩ := prepare_identified accepting identified
  obtain ⟨results, errors, after, completed, -, told, -⟩ :=
    complete_told accepting program catalog fair found summary prepared
  rw [sweepIfAsked_lifecycle host program lifecycle, map_pure, outcome_pure] at completed
  refine ⟨found, middle, concluded catalog options found summary
      ⟨results, errors, results.length < found.records.length⟩ none, after, identified, ?_,
    concluded_balances listsOnce listed same collects told options⟩
  rw [run_eq_prepare_complete, outcome_bind_ok done]
  exact completed

/-- The numbers balance although the methods of one of two abilities are denied, and in the scan the
body of the other one.
-/
theorem run_balances_forgetful
    : Catalog.standard.PatternsAreTexts
      ∧ Catalog.standard.ListsOnce
      ∧ forgetful.Accepting
      ∧ ∃ found middle result after,
          outcome
              (identifyStage forgetful
                (.ofFiles [⟨"a.ets", [abilityNamed "A", abilityNamed "B"]⟩]) .standard
                ⟨.bool true, 2, none, .lifecycle, none, List.range⟩)
              .fresh
            = (.ok found, middle)
          ∧ outcome
              (run forgetful (.ofFiles [⟨"a.ets", [abilityNamed "A", abilityNamed "B"]⟩]) .standard
                ⟨.bool true, 2, none, .lifecycle, none, List.range⟩)
              .fresh
            = (.ok result, after)
          ∧ Balances 2 found result := by
  have listsOnce : Catalog.standard.ListsOnce :=
    Catalog.versions_listOnce (by simp [Catalog.standard, Catalog.versions])
  have accepting : forgetful.Accepting := fun _ => rfl
  exact ⟨Catalog.standard_texts, listsOnce, accepting,
    run_balances Catalog.standard_texts listsOnce accepting
      (.ofFiles [⟨"a.ets", [abilityNamed "A", abilityNamed "B"]⟩])
      (fun tasks => .refl (List.range tasks)) rfl .fresh⟩

end Analysis

end ArkLifecycle
