import ArkLifecycle.Proofs.Analysis.Stages
import ArkLifecycle.Proofs.Sweep.Denials

/-! A denied question costs an analysis what the question was about, and no more, until the sweep.

The same program is analyzed twice, by a host that may deny any single call and by one that denies
nothing. Classes lose all of their records or none, and callbacks lose all of their issues or none.
In the sweep, one denied class or method ends the whole analysis.
-/

namespace ArkLifecycle.Analysis

open Activity Identification

-----------------------------------------------------------------------------------------
-- Without the sweep
-----------------------------------------------------------------------------------------

/-- Without the sweep, an analysis that nobody stops ends and has scanned every callback. -/
theorem run_unswept {catalog : Catalog} (texts : catalog.PatternsAreTexts) {host : Host}
    (accepting : host.Accepting) (patient : host.Patient) (program : Program)
    {options : AnalysisOptions} (lifecycle : options.scope = .lifecycle) (fair : options.Fair)
    (before : Session)
    : ∃ visits found summary results errors after,
        outcome (run host program catalog options) before
          = (.ok (concluded catalog options found summary ⟨results, errors, false⟩ none), after)
        ∧ FoundBy host program catalog options.skipTestFiles.truthy before.queries after.queries
            visits found
        ∧ List.Forall₂
            (Told host (scanOptionsOf catalog summary) errors before.queries after.queries)
            found.records results := by
  obtain ⟨visits, found, summary, results, errors, after, done, rest⟩ :=
    run_scanned texts accepting patient program fair before
  refine ⟨visits, found, summary, results, errors, after, ?_, rest⟩
  rw [done, sweepIfAsked_lifecycle host program lifecycle, outcome_map]
  rfl

/-- What is told of a callback tells all of its issues, or none and then an error names it. -/
theorem Told.issues {host : Host} {options : ScanOptions} {errors : List StageError}
    {start finish : List Query} {record : Record} {result : ScanResult}
    (told : Told host options errors start finish record result)
    : result.issues = Scan.issuesIn options.weak record
      ∨ result.issues = []
        ∧ (∃ message, .scan record.key message ∈ errors)
        ∧ BodyDenied host start finish record := by
  rcases told with same | ⟨none, rest⟩
  · exact Or.inl ((congrArg ScanResult.issues same).trans (Scan.scanIn_issues options record))
  · exact Or.inr ⟨congrArg ScanResult.issues none, rest⟩

/-- An analysis compared with one in which nothing was denied. The questions that were denied were
put between two states of the log.

Every class was visited; it keeps its role or has none, and it keeps all records or has none, and
what it lost it lost to a denied question that concerns it. Every callback that is left has all of
its issues; or it has none because its body was denied in the scan, and an error names it.
-/
structure Isolates (host : Host) (program : Program) (catalog : Catalog) (skipTests : Bool)
    (start finish : List Query) (result plain : Analysis)
    : Prop where
  classes
    : ∃ visits : List ClassVisit,
        visits.map ClassVisit.decl = examined catalog skipTests program.files
        ∧ result.records = visits.flatMap ClassVisit.records
        ∧ plain.records = visits.flatMap (fun visit => recordsIn program catalog visit.decl)
        ∧ result.roles
          = visits.foldl (fun roles visit => putRole roles visit.decl.name visit.role) []
        ∧ ∀ visit ∈ visits, visit.Isolated host program catalog start finish
  issues
    : ∃ shares : List (List RiskIssue),
        result.issues = shares.flatten
        ∧ plain.issues = plain.records.flatMap (Scan.issuesIn catalog.weakSignals)
        ∧ List.Forall₂
            (fun record share =>
              share = Scan.issuesIn catalog.weakSignals record
              ∨ share = []
                ∧ (∃ message, .scan record.key message ∈ result.errors)
                ∧ BodyDenied host start finish record)
            result.records shares

/-- Whatever single calls a host denies, an analysis without the sweep that nobody stops gives a
result, and it isolates what was denied.
Witness: the host that denies nothing is told the truth by the same two parts of a run.
-/
theorem run_isolates {catalog : Catalog} (texts : catalog.PatternsAreTexts) {host : Host}
    (accepting : host.Accepting) (patient : host.Patient) (program : Program)
    {options : AnalysisOptions} (lifecycle : options.scope = .lifecycle) (fair : options.Fair)
    (before : Session)
    : ∃ result after plain afterwards,
        outcome (run host program catalog options) before = (.ok result, after)
        ∧ outcome (run host.obliging program catalog options) before = (.ok plain, afterwards)
        ∧ Isolates host program catalog options.skipTestFiles.truthy before.queries
            after.queries result plain := by
  obtain ⟨visits, found, summary, results, errors, after, done, visited, told⟩ :=
    run_unswept texts accepting patient program lifecycle fair before
  -- The host that denies nothing accepts events and waits like the given one.
  have obliging : host.obliging.Obliging := host.obliging_denies_nothing
  have accepts : host.obliging.Accepting := accepting
  have waits : host.obliging.Patient := patient
  obtain ⟨seen, truth, outline, findings, more, afterwards, plainly, truthful, scanned⟩ :=
    run_unswept texts accepts waits program lifecycle fair before
  refine ⟨_, after, _, afterwards, done, plainly, ⟨visits, visited.classes, visited.records, ?_,
    visited.roles, visited.isolated⟩, results.map ScanResult.issues, List.flatMap_def .., ?_, ?_⟩
  · exact (truthful.records_obliged obliging).trans (by rw [← visited.classes, List.flatMap_map])
  · have same := congrArg (List.flatMap ScanResult.issues) (map_findings_obliged scanned obliging)
    simp only [List.flatMap_map, Scan.scanIn_issues] at same
    exact same
  · rw [List.forall₂_map_right_iff]
    refine told.imp fun record result told => told.issues.imp_right ?_
    rintro ⟨none, ⟨message, listed⟩, denied⟩
    exact ⟨none, ⟨message, List.mem_append_right _ listed⟩, denied⟩

/-- (forgetful) is a host that denies the methods of one class, and every body once it was asked
four questions.
-/
def forgetful : Host :=
  { Host.willing with
    deny := fun history query =>
      match query with
      | .methods decl => if decl.name == "A" then some (.collaborator "no methods") else none
      | .body _ => if 4 ≤ history.length then some (.collaborator "no body") else none
      | _ => none }

/-- Two abilities are analyzed although the methods of one and, in the scan, the body of the other
are denied.
-/
theorem run_isolates_forgetful
    : Catalog.standard.PatternsAreTexts
      ∧ forgetful.Accepting
      ∧ forgetful.Patient
      ∧ forgetful.denies ⟨[], .methods (abilityNamed "A")⟩
      ∧ ∃ result after plain afterwards,
          outcome
              (run forgetful (.ofFiles [⟨"a.ets", [abilityNamed "A", abilityNamed "B"]⟩]) .standard
                ⟨.bool true, 2, none, .lifecycle, none, List.range⟩)
              .fresh
            = (.ok result, after)
          ∧ outcome
              (run forgetful.obliging
                (.ofFiles [⟨"a.ets", [abilityNamed "A", abilityNamed "B"]⟩]) .standard
                ⟨.bool true, 2, none, .lifecycle, none, List.range⟩)
              .fresh
            = (.ok plain, afterwards)
          ∧ Isolates forgetful (.ofFiles [⟨"a.ets", [abilityNamed "A", abilityNamed "B"]⟩])
              .standard true [] after.queries result plain := by
  have accepting : forgetful.Accepting := fun _ => rfl
  have patient : forgetful.Patient := fun _ => rfl
  exact ⟨Catalog.standard_texts, accepting, patient, rfl,
    run_isolates Catalog.standard_texts accepting patient _ rfl
      (fun tasks => .refl (List.range tasks)) .fresh⟩

-----------------------------------------------------------------------------------------
-- With the sweep
-----------------------------------------------------------------------------------------

/-- An analysis with a sweep that nobody stops gives all issues of the project if nothing is denied
to the sweep, and otherwise fails with the first fault that is.
-/
theorem run_swept {catalog : Catalog} (texts : catalog.PatternsAreTexts) {host : Host}
    (accepting : host.Accepting) (patient : host.Patient) {classes : ClassDecl → Option Fault}
    {bodies : Method → Option Fault} (steady : host.Steady classes bodies) (program : Program)
    {options : AnalysisOptions} (project : options.scope = .project) (fair : options.Fair)
    (before : Session)
    : (Sweep.denials classes bodies options.skipTestFiles.truthy program.files = []
        → ∃ result after sweep,
            outcome (run host program catalog options) before = (.ok result, after)
            ∧ result.sweep = some sweep
            ∧ sweep.issues
              = (Sweep.sites options.skipTestFiles.truthy program.files).flatMap
                  Sweep.siteIssues)
      ∧ ∀ fault,
          (Sweep.denials classes bodies options.skipTestFiles.truthy program.files).head?
            = some fault
          → (outcome (run host program catalog options) before).1 = .error fault := by
  obtain ⟨-, found, summary, results, errors, middle, done, -⟩ :=
    run_scanned texts accepting patient program fair before
  have asked
      : sweepIfAsked host program options ⟨results, errors, false⟩
        = some <$> sweepStage host program options := by
    rw [sweepIfAsked, project]
    rfl
  obtain ⟨started, ended, failed⟩ := sweepStage_ok accepting program options middle
  obtain ⟨all, denied⟩ :=
    Sweep.run_gives steady patient program options.skipTestFiles.truthy started
  rw [done, asked, outcome_map, outcome_map]
  constructor
  · intro none
    obtain ⟨sweep, swept, gave, issues⟩ := all none
    obtain ⟨after, staged⟩ := ended sweep swept gave
    rw [staged]
    exact ⟨_, after, sweep, rfl, rfl, issues⟩
  · intro fault first
    rw [failed fault (denied fault first)]
    rfl

/-- The issues of an analysis with a sweep are those of the project without the ones that were
denied exactly if nothing is denied to the sweep: no class that it goes through, and no method of
these that it examines. Otherwise the analysis fails with the first fault.
Witness: the sweep catches nothing, so it ends with all issues or with a fault.
-/
theorem run_sweeps_iff {catalog : Catalog} (texts : catalog.PatternsAreTexts) {host : Host}
    (accepting : host.Accepting) (patient : host.Patient) {classes : ClassDecl → Option Fault}
    {bodies : Method → Option Fault} (steady : host.Steady classes bodies) (program : Program)
    {options : AnalysisOptions} (project : options.scope = .project) (fair : options.Fair)
    (before : Session)
    : (∃ plain after sweep,
        outcome (run host.obliging program catalog options) before = (.ok plain, after)
        ∧ plain.sweep = some sweep
        ∧ sweep.issues
          = (Sweep.sites options.skipTestFiles.truthy program.files).flatMap Sweep.siteIssues)
      ∧ ((∃ result after sweep,
          outcome (run host program catalog options) before = (.ok result, after)
          ∧ result.sweep = some sweep
          ∧ sweep.issues
            = (Sweep.sites options.skipTestFiles.truthy program.files).flatMap
                (Sweep.issuesLeft classes bodies))
        ↔ ∀ site ∈ Sweep.sites options.skipTestFiles.truthy program.files,
            classes site.2 = none
            ∧ ∀ method ∈ site.2.methods,
                Sweep.isSweepable method = true → bodies method = none)
      ∧ ∀ fault,
          (Sweep.denials classes bodies options.skipTestFiles.truthy program.files).head?
            = some fault
          → (outcome (run host program catalog options) before).1 = .error fault := by
  obtain ⟨all, denied⟩ :=
    run_swept texts accepting patient steady program project fair before
  have accepts : host.obliging.Accepting := accepting
  have waits : host.obliging.Patient := patient
  obtain ⟨plainly, -⟩ := run_swept texts accepts waits host.obliging_denies_nothing.steady program
    project fair before
  refine ⟨plainly ?_, ⟨?_, ?_⟩, denied⟩
  · exact Sweep.denials_eq_nil_iff.mpr fun _ _ => ⟨rfl, fun _ _ _ => rfl⟩
  · rintro ⟨result, after, sweep, done, -⟩
    rw [← Sweep.denials_eq_nil_iff]
    cases first : Sweep.denials classes bodies options.skipTestFiles.truthy program.files with
    | nil => rfl
    | cons fault rest =>
        have failed := denied fault (by rw [first]; rfl)
        rw [done] at failed
        cases failed
  · intro free
    obtain ⟨result, after, sweep, done, given, issues⟩ := all (Sweep.denials_eq_nil_iff.mpr free)
    refine ⟨result, after, sweep, done, given, issues.trans ?_⟩
    rw [List.flatMap_def, List.flatMap_def]
    refine congrArg List.flatten (List.map_congr_left fun site member => ?_)
    exact (Sweep.issuesLeft_eq_siteIssues (free site member).1 (free site member).2).symm

/-- (withheld decl) is the fault for which the methods of one class are denied. -/
def withheld (decl : ClassDecl) : Option Fault :=
  if decl.name == "A" then some (.collaborator "list_methods failed for A") else none

/-- (withholding) is a host that denies the methods of that class, and nothing else. -/
def withholding : Host :=
  { Host.willing with
    deny := fun _ query =>
      match query with
      | .methods decl => withheld decl
      | _ => none }

theorem withholding_steady : withholding.Steady withheld (fun _ => none) :=
  ⟨fun _ _ => rfl, fun _ _ => rfl⟩

/-- The class that is denied does no harm in a file that the sweep skips. -/
theorem run_sweeps_iff_skipped
    : Catalog.standard.PatternsAreTexts
      ∧ withholding.Accepting
      ∧ withholding.Patient
      ∧ withholding.Steady withheld (fun _ => none)
      ∧ ∃ result after sweep,
          outcome
              (run withholding
                (.ofFiles [⟨"test.ets", [abilityNamed "A"]⟩, ⟨"b.ets", [abilityNamed "B"]⟩])
                .standard ⟨.bool true, 1, none, .project, none, List.range⟩)
              .fresh
            = (.ok result, after)
          ∧ result.sweep = some sweep
          ∧ sweep.issues
            = (Sweep.sites true
                (Program.ofFiles
                  [⟨"test.ets", [abilityNamed "A"]⟩, ⟨"b.ets", [abilityNamed "B"]⟩]).files).flatMap
                (Sweep.issuesLeft withheld (fun _ => none)) := by
  have accepting : withholding.Accepting := fun _ => rfl
  have patient : withholding.Patient := fun _ => rfl
  refine ⟨Catalog.standard_texts, accepting, patient, withholding_steady, ?_⟩
  refine (run_sweeps_iff Catalog.standard_texts accepting patient withholding_steady _ rfl
    (fun tasks => .refl (List.range tasks)) .fresh).2.1.mpr ?_
  intro site member
  have same : site.2.name = "B" := by
    revert site
    decide
  have free : withheld site.2 = none := by
    rw [withheld, same]
    rfl
  exact ⟨free, fun _ _ _ => rfl⟩

/-- One class whose methods are denied ends the analysis of a project in which another class has an
issue.
-/
theorem run_withholding_fails
    : (outcome
          (run withholding (.ofFiles [⟨"a.ets", [abilityNamed "A", abilityNamed "B"]⟩]) .standard
            ⟨.bool true, 1, none, .project, none, List.range⟩)
          .fresh).1
        = .error (.collaborator "list_methods failed for A")
      ∧ (Sweep.sites true
            (Program.ofFiles [⟨"a.ets", [abilityNamed "A", abilityNamed "B"]⟩]).files).flatMap
          (Sweep.issuesLeft withheld (fun _ => none)) ≠ [] := by
  constructor
  · exact (run_swept Catalog.standard_texts (fun _ => rfl) (fun _ => rfl) withholding_steady _ rfl
      (fun tasks => .refl (List.range tasks)) .fresh).2 _ rfl
  · decide

end ArkLifecycle.Analysis
