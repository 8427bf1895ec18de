import ArkLifecycle.Proofs.Analysis.Backends
import ArkLifecycle.Proofs.Analysis.Results

/-! What the scan and the sweep find in the statements that both of them see.

The scan gives a statement at most one issue, for its gravest sign, and the sweep one for every
pattern. They look for different signs, but the signs of undefined values are the same, and the
other patterns of the sweep are signs of the scan as well, if weak ones count.
-/

namespace ArkLifecycle

open Activity

-----------------------------------------------------------------------------------------
-- Signs in a text
-----------------------------------------------------------------------------------------

namespace Risk

section Signs

variable {text : Text}

theorem assess_undefined (weak : Bool) (undefined : Text.contains text "undefined" = true)
    : ∃ found, assess weak text = some found ∧ found.severity = .high := by
  rw [assess, if_pos undefined]
  exact ⟨_, rfl, rfl⟩

/-- Only the word for undefined values is a grave sign. -/
theorem assess_defined {weak : Bool} (defined : ¬ Text.contains text "undefined" = true)
    {found : Match} (given : assess weak text = some found)
    : found.severity ≠ .high := by
  rw [assess, if_neg defined] at given
  split_ifs at given <;> cases given <;> rintro ⟨⟩

theorem assess_null (weak : Bool) (null : Text.contains text "null" = true)
    : ∃ found,
        assess weak text = some found ∧ (found.severity = .high ∨ found.severity = .medium) := by
  by_cases undefined : Text.contains text "undefined" = true
  · obtain ⟨found, given, high⟩ := assess_undefined weak undefined
    exact ⟨found, given, Or.inl high⟩
  · rw [assess, if_neg undefined, if_pos null]
    exact ⟨_, rfl, Or.inr rfl⟩

/-- With weak signs, loading from an array is one. -/
theorem assess_array (array : Text.contains text "arrayload" = true)
    : (assess true text).isSome = true := by
  have reads : readsArray text = true := by rw [readsArray, array, Bool.true_or]
  simp only [assess, Bool.not_true, Bool.false_eq_true, if_false, reads, if_true]
  split_ifs <;> rfl

theorem filter_patterns_value (text : Text)
    : (patterns text).filter (fun hit => hit.subject = ("value" : Text))
      = if Text.contains text "undefined"
        then [⟨"value", .high, "Possible use of an undefined value"⟩]
        else [] := by
  have field : ¬ ("field" : Text) = "value" := by decide
  have element : ¬ ("array element" : Text) = "value" := by decide
  unfold patterns
  split_ifs <;> simp [field, element]

/-- A pattern of the sweep is there for one of three words. -/
theorem mem_patterns {hit : Hit} (member : hit ∈ patterns text)
    : hit.subject = "value" ∧ Text.contains text "undefined" = true
      ∨ hit.subject = "field" ∧ Text.contains text "null" = true
      ∨ hit.subject = "array element" ∧ Text.contains text "arrayload" = true := by
  simp only [patterns, List.mem_append, List.mem_ite_nil_right, List.mem_singleton,
    Bool.and_eq_true] at member
  rcases member with (⟨undefined, rfl⟩ | ⟨⟨-, null⟩, rfl⟩) | ⟨array, rfl⟩
  · exact Or.inl ⟨rfl, undefined⟩
  · exact Or.inr (Or.inl ⟨rfl, null⟩)
  · exact Or.inr (Or.inr ⟨rfl, array⟩)

/-- A field that may be null is a grave sign, or one of medium weight. -/
theorem assess_of_field (weak : Bool) {hit : Hit} (member : hit ∈ patterns text)
    (field : hit.subject = "field")
    : ∃ found,
        assess weak text = some found
        ∧ (found.severity = .high ∨ found.severity = .medium) := by
  rcases mem_patterns member with ⟨same, -⟩ | ⟨-, null⟩ | ⟨same, -⟩
  · exact absurd (field.symm.trans same) (by decide)
  · exact assess_null weak null
  · exact absurd (field.symm.trans same) (by decide)

/-- With weak signs, every pattern of the sweep is a sign. -/
theorem assess_of_pattern {hit : Hit} (member : hit ∈ patterns text)
    : ∃ found, assess true text = some found := by
  rcases mem_patterns member with ⟨-, undefined⟩ | ⟨-, null⟩ | ⟨-, array⟩
  · obtain ⟨found, given, -⟩ := assess_undefined true undefined
    exact ⟨found, given⟩
  · obtain ⟨found, given, -⟩ := assess_null true null
    exact ⟨found, given⟩
  · exact Option.isSome_iff_exists.mp (assess_array array)

end Signs

end Risk

-----------------------------------------------------------------------------------------
-- Bodies
-----------------------------------------------------------------------------------------

/-- (statements method) are the statements in the body of a method. -/
def Method.statements (method : Method) : List Stmt :=
  method.cfg.elim [] Cfg.stmts

/-- The scan of a callback and the sweep of a method agree on the statements of the method. The
grave issues stand in the lines where undefined values are used. Fields that may be null are issues
of some weight; and if weak signs count, there is an issue wherever the sweep has one.
-/
structure SharesStatements (weak : Bool) (record : Record) (path : Text) (decl : ClassDecl)
    (method : Method)
    : Prop where
  issues
    : ∀ issue ∈ Scan.issuesIn weak record,
        issue.method = record.key ∧ issue.className = record.className
  hits
    : ∀ hit ∈ Sweep.methodIssues path decl method,
        hit.filePath = path ∧ hit.className = decl.name ∧ hit.methodName = method.name
  lines
    : ((Scan.issuesIn weak record).filter fun issue => issue.severity = .high).map
        RiskIssue.line
      = ((Sweep.methodIssues path decl method).filter fun hit =>
          hit.subject = ("value" : Text)).map ProjectIssue.line
  field
    : ∀ stmt ∈ method.statements,
        (∃ hit ∈ Sweep.issuesOf path decl method stmt, hit.subject = "field")
        → ∃ issue ∈ Scan.issuesIn weak record,
            Scan.issueOf weak record stmt = some issue
            ∧ (issue.severity = .high ∨ issue.severity = .medium)
  any
    : weak = true
      → ∀ stmt ∈ method.statements,
          Sweep.issuesOf path decl method stmt ≠ []
          → ∃ issue ∈ Scan.issuesIn weak record, Scan.issueOf weak record stmt = some issue

section Bodies

variable {weak : Bool} {record : Record} {path : Text} {decl : ClassDecl} {method : Method}

theorem lines_of_stmt (stmt : Stmt)
    : ((Scan.issueOf weak record stmt).toList.filter fun issue => issue.severity = .high).map
        RiskIssue.line
      = ((Sweep.issuesOf path decl method stmt).filter fun hit =>
          hit.subject = ("value" : Text)).map ProjectIssue.line := by
  have hits
      : ((Sweep.issuesOf path decl method stmt).filter fun hit =>
          hit.subject = ("value" : Text)).map ProjectIssue.line
        = if Text.contains stmt.text "undefined" then [stmt.line] else [] := by
    rw [Sweep.issuesOf, List.filter_map, List.map_map]
    simp only [Function.comp_def, Risk.filter_patterns_value]
    split_ifs <;> rfl
  rw [hits, Scan.issueOf]
  split
  · next undefined =>
      obtain ⟨found, given, high⟩ := Risk.assess_undefined weak undefined
      simp [given, high]
  · next defined =>
      cases given : Risk.assess weak stmt.text with
      | none => rfl
      | some found =>
          have light := Risk.assess_defined defined given
          simp [light]

/-- Witness: every statement has as many grave issues as hits of undefined values, none or one. -/
theorem lines_of_stmts (stmts : List Stmt)
    : ((stmts.filterMap (Scan.issueOf weak record)).filter fun issue =>
          issue.severity = .high).map RiskIssue.line
      = ((stmts.flatMap (Sweep.issuesOf path decl method)).filter fun hit =>
          hit.subject = ("value" : Text)).map ProjectIssue.line := by
  rw [List.filterMap_eq_flatMap_toList, List.filter_flatMap, List.map_flatMap,
    List.filter_flatMap, List.map_flatMap]
  exact List.flatMap_congr fun stmt _ => lines_of_stmt stmt

theorem issuesIn_eq_statements (given : record.method = some method)
    (same : record.hasImplementation = method.hasImplementation)
    : Scan.issuesIn weak record = method.statements.filterMap (Scan.issueOf weak record) := by
  rw [Scan.issuesIn, Scan.bodyIn, given, same, Method.hasImplementation, Method.statements,
    Option.bind_some]
  cases method.cfg with
  | none => rfl
  | some cfg =>
      cases empty : cfg.isEmpty with
      | false => simp [Method.isImplemented, Option.filter, empty]
      | true =>
          have none : cfg.blocks = [] := List.isEmpty_iff.mp empty
          simp [Method.isImplemented, empty, Cfg.stmts, none]

theorem methodIssues_eq_statements (sweepable : Sweep.isSweepable method = true)
    : Sweep.methodIssues path decl method
      = method.statements.flatMap (Sweep.issuesOf path decl method) := by
  rw [Sweep.methodIssues, Method.statements]
  cases method.cfg with
  | none => rfl
  | some cfg => exact if_pos sweepable

/-- A callback and its method have the same statements, so they are agreed on. -/
theorem sharesStatements (given : record.method = some method)
    (same : record.hasImplementation = method.hasImplementation)
    (sweepable : Sweep.isSweepable method = true)
    : SharesStatements weak record path decl method := by
  have found {stmt : Stmt} (member : stmt ∈ method.statements) {sign : Risk.Match}
      (shown : Risk.assess weak stmt.text = some sign)
      : ∃ issue ∈ Scan.issuesIn weak record,
          Scan.issueOf weak record stmt = some issue ∧ issue.severity = sign.severity := by
    have issued
        : ∃ issue,
            Scan.issueOf weak record stmt = some issue ∧ issue.severity = sign.severity := by
      rw [Scan.issueOf, shown]
      exact ⟨_, rfl, rfl⟩
    obtain ⟨issue, issued, level⟩ := issued
    rw [issuesIn_eq_statements given same]
    exact ⟨issue, List.mem_filterMap.mpr ⟨stmt, member, issued⟩, issued, level⟩
  constructor
  case issues =>
    intro issue member
    rw [issuesIn_eq_statements given same] at member
    obtain ⟨stmt, -, issued⟩ := List.mem_filterMap.mp member
    obtain ⟨sign, -, rfl⟩ := Option.map_eq_some_iff.mp issued
    exact ⟨rfl, rfl⟩
  case hits =>
    intro hit member
    rw [methodIssues_eq_statements sweepable] at member
    obtain ⟨stmt, -, inside⟩ := List.mem_flatMap.mp member
    obtain ⟨pattern, -, rfl⟩ := List.mem_map.mp inside
    exact ⟨rfl, rfl, rfl⟩
  case lines =>
    rw [issuesIn_eq_statements given same, methodIssues_eq_statements sweepable]
    exact lines_of_stmts method.statements
  case field =>
    intro stmt member
    rintro ⟨hit, shown, field⟩
    obtain ⟨pattern, listed, rfl⟩ := List.mem_map.mp shown
    obtain ⟨sign, assessed, weight⟩ := Risk.assess_of_field weak listed field
    obtain ⟨issue, inside, issued, level⟩ := found member assessed
    exact ⟨issue, inside, issued, level ▸ weight⟩
  case any =>
    rintro rfl stmt member shown
    obtain ⟨hit, inside⟩ := List.exists_mem_of_ne_nil _ shown
    obtain ⟨pattern, listed, -⟩ := List.mem_map.mp inside
    obtain ⟨sign, assessed⟩ := Risk.assess_of_pattern listed
    obtain ⟨issue, inside, issued, -⟩ := found member assessed
    exact ⟨issue, inside, issued⟩

end Bodies

-----------------------------------------------------------------------------------------
-- Whole analyses
-----------------------------------------------------------------------------------------

namespace Sweep

/-- A sweep goes through the classes of the files that an identification does not skip. -/
theorem sites_eq_flatMap (skipTests : Bool) (files : List SourceFile)
    : sites skipTests files
      = (files.filter (!Identification.isSkipped skipTests ·)).flatMap fun file =>
          file.classes.map (file.path, ·) := by
  induction files with
  | nil => rfl
  | cons file rest ih =>
      rw [sites, ih]
      cases skipped : Identification.isSkipped skipTests file with
      | true => rw [List.filter_cons_of_neg (by simp [skipped])]; exact if_pos skipped
      | false =>
          rw [List.filter_cons_of_pos (by simp [skipped]), List.flatMap_cons]
          exact if_neg (Bool.not_eq_true _ ▸ skipped)

/-- A class that is examined for callbacks is one that the sweep goes through. -/
theorem mem_sites_of_examined {catalog : Catalog} {skipTests : Bool} {files : List SourceFile}
    {decl : ClassDecl} (member : decl ∈ Identification.examined catalog skipTests files)
    : ∃ path, (path, decl) ∈ sites skipTests files := by
  obtain ⟨file, walked, declared⟩ := List.mem_flatMap.mp (List.mem_of_mem_filter member)
  rw [sites_eq_flatMap]
  exact ⟨file.path, List.mem_flatMap.mpr ⟨file, walked, List.mem_map_of_mem declared⟩⟩

end Sweep

namespace Analysis

/-- The callbacks and the classes that the sweep went through share their findings. Each record is
that of a method of such a class, and where the sweep looks into that method, the scan and the sweep
agree on its statements.
-/
structure SharesFindings (weak : Bool) (sites : List (Text × ClassDecl)) (result : Analysis)
    (sweep : Sweep)
    : Prop where
  scanned : result.issues = result.records.flatMap (Scan.issuesIn weak)
  swept
    : sweep.issues
      = sites.flatMap fun site => site.2.methods.flatMap (Sweep.methodIssues site.1 site.2)
  shared
    : ∀ record ∈ result.records,
        ∃ site ∈ sites,
          ∃ method ∈ site.2.methods,
            record.method = some method
            ∧ record.methodName = method.name
            ∧ record.className = site.2.name
            ∧ (Sweep.isSweepable method = true
              → SharesStatements weak record site.1 site.2 method)

variable {host : Host} {program : Program} {catalog : Catalog} {options : AnalysisOptions}

/-- After a scan that was not stopped, the project is swept. A sweep that is not stopped either has
all issues of the project.
-/
theorem sweepIfAsked_swept (obliging : host.Obliging) (accepting : host.Accepting)
    (program : Program) (project : options.scope = .project) {scanned : Scanned}
    (going : scanned.cancelled = false) (before : Session)
    : ∃ sweep after,
        outcome (sweepIfAsked host program options scanned) before = (.ok (some sweep), after)
        ∧ (host.Patient → sweep.cancelled = false)
        ∧ (sweep.cancelled = false
          → sweep.issues
            = (Sweep.sites options.skipTestFiles.truthy program.files).flatMap
                Sweep.siteIssues) := by
  obtain ⟨count, stops⟩ := host.exists_stopsAfter before.looks
    (Sweep.sites options.skipTestFiles.truthy program.files).length
  obtain ⟨sweep, after, reference, later, done, alone, same, cancelled⟩ :=
    sweepStage_stopsAfter obliging accepting program options before stops
  refine ⟨sweep, after, ?_, ?_, ?_⟩
  · rw [sweepIfAsked, if_pos ⟨project, by rw [going]; rfl⟩, outcome_map, done]
    rfl
  · intro patient
    rw [cancelled, decide_eq_false_iff_not]
    intro short
    have stopped := stops.stopped short
    rw [patient] at stopped
    cases stopped
  · intro whole
    rw [cancelled, decide_eq_false_iff_not] at whole
    have unstopped : host.patient.Obliging := obliging
    obtain ⟨all, also, swept, issues⟩ := (Sweep.run_gives unstopped.steady (fun _ => rfl)
      (Sweep.only program ((Sweep.sites options.skipTestFiles.truthy program.files).take count))
      false before).1 (Sweep.denials_eq_nil_iff.mpr (by simp))
    rw [alone] at swept
    cases swept
    rw [same.issues, issues, Sweep.sites_only, List.take_of_length_le (Nat.le_of_not_lt whole)]

/-- The records of a result share their findings with a sweep of the whole project. -/
theorem concluded_sharesFindings {before after : Session} {found : Identification}
    (identified
      : outcome (Identification.identify host program catalog options.skipTestFiles.truthy) before
        = (.ok found, after))
    {summary : CallGraphSummary} {results : List ScanResult}
    (given : FoundIn catalog summary found.records results) (errors : List StageError)
    (cancelled : Bool) {sweep : Sweep}
    (swept
      : sweep.issues
        = (Sweep.sites options.skipTestFiles.truthy program.files).flatMap Sweep.siteIssues)
    : SharesFindings catalog.weakSignals
        (Sweep.sites options.skipTestFiles.truthy program.files)
        (concluded catalog options found summary ⟨results, errors, cancelled⟩ (some sweep))
        sweep := by
  refine ⟨given.issues, swept, fun record member => ?_⟩
  obtain ⟨decl, examined, role, inside⟩ :=
    Identification.mem_records_of_identify identified member
  obtain ⟨method, declared, kind, -, rfl⟩ := Identification.of_mem_recordsAs inside
  obtain ⟨path, listed⟩ := Sweep.mem_sites_of_examined examined
  exact ⟨(path, decl), listed, method, declared, rfl, rfl, rfl, sharesStatements rfl rfl⟩

/-- When nothing is denied to an analysis of a project, it ends. If it is not stopped, the scan and
the sweep agree on what is found in the methods that both look into.
-/
theorem run_sharesFindings (obliging : host.Obliging) (accepting : host.Accepting)
    (texts : catalog.PatternsAreTexts) (program : Program) (fair : options.Fair)
    (project : options.scope = .project) (before : Session)
    : ∃ result after,
        outcome (run host program catalog options) before = (.ok result, after)
        ∧ (host.Patient → result.cancelled = false)
        ∧ (result.cancelled = false
          → ∃ sweep,
              result.sweep = some sweep
              ∧ SharesFindings catalog.weakSignals
                  (Sweep.sites options.skipTestFiles.truthy program.files) result sweep) := by
  obtain ⟨_, _, found, _, _, identified, -⟩ :=
    identifyStage_collects texts accepting program options before
  obtain ⟨summary, middle, prepared, -⟩ := prepare_identified accepting identified
  obtain ⟨results, errors, scanned, completed, -, told, stopped⟩ :=
    complete_told accepting program catalog fair found summary middle
  obtain ⟨_, _, records⟩ := identifyStage_eq_ok identified
  rw [run_eq_prepare_complete, outcome_bind_ok prepared, completed, outcome_map]
  by_cases short : results.length < found.records.length
  · -- A scan that was stopped is not followed by a sweep, and the analysis counts as stopped.
    rw [sweepIfAsked, if_neg (by simp [short])]
    refine ⟨_, scanned, rfl, ?_, ?_⟩
    · intro patient
      obtain ⟨look, stop⟩ := stopped short
      rw [patient] at stop
      cases stop
    · intro going
      simp [concluded, short] at going
  · have going
        : (⟨results, errors, results.length < found.records.length⟩ : Scanned).cancelled
          = false :=
      decide_eq_false short
    obtain ⟨sweep, after, swept, patiently, whole⟩ :=
      sweepIfAsked_swept obliging accepting program project going scanned
    rw [swept]
    rw [TellsBeginning, List.take_of_length_le (Nat.le_of_not_lt short)] at told
    have given : FoundIn catalog summary found.records results :=
      map_findings_obliged told obliging
    refine ⟨_, after, rfl, patiently, fun going => ⟨sweep, rfl, ?_⟩⟩
    exact concluded_sharesFindings records given errors _ (whole going)

/-- Both of two abilities use an undefined value in a callback, and nobody stops the analysis. -/
theorem run_sharesFindings_wholeProject
    : Host.willing.Obliging
      ∧ Host.willing.Accepting
      ∧ Catalog.standard.PatternsAreTexts
      ∧ wholeProject.Fair
      ∧ wholeProject.scope = .project
      ∧ ∃ result after,
          outcome
              (run .willing (.ofFiles [⟨"a.ets", [abilityNamed "A", abilityNamed "B"]⟩]) .standard
                wholeProject)
              .fresh
            = (.ok result, after)
          ∧ result.cancelled = false
          ∧ ∃ sweep,
              result.sweep = some sweep
              ∧ SharesFindings Catalog.standard.weakSignals
                  [("a.ets", abilityNamed "A"), ("a.ets", abilityNamed "B")] result sweep := by
  have accepting : Host.willing.Accepting := fun _ => rfl
  have fair : wholeProject.Fair := fun tasks => .refl (List.range tasks)
  obtain ⟨result, after, done, patiently, shared⟩ :=
    run_sharesFindings Host.willing_denies_nothing accepting Catalog.standard_texts
      (.ofFiles [⟨"a.ets", [abilityNamed "A", abilityNamed "B"]⟩]) fair rfl .fresh
  have going : result.cancelled = false := patiently fun _ => rfl
  obtain ⟨sweep, swept, shares⟩ := shared going
  exact ⟨Host.willing_denies_nothing, accepting, Catalog.standard_texts, fair, rfl, result, after,
    done, going, sweep, swept, shares⟩

end Analysis

end ArkLifecycle
