import ArkLifecycle.Proofs.Analysis.Stages
import ArkLifecycle.Proofs.Sweep.Denials

/-! A scan by several workers is one that a single worker was told to stop at some point.

Whether to stop is looked up only from the scan on, so two hosts that differ in that alone lead to
the same callbacks and the same call graph. What is left to compare is which callbacks the scans
cover.
-/

namespace ArkLifecycle

open Activity

/-- (Host.stoppingFrom host look) is the same host, except that it says to stop from one look on. -/
def Host.stoppingFrom (host : Host) (look : Nat) : Host :=
  { host with stop := fun current => decide (look ≤ current) }

-----------------------------------------------------------------------------------------
-- Before the scan
-----------------------------------------------------------------------------------------

section Unstopped

variable (host : Host) (stop : Nat → Bool) (program : Program) (catalog : Catalog)

/-- Telling the role of a class does not depend on when to stop. -/
theorem Classification.classify_stop (decl : ClassDecl)
    : classify { host with stop } program catalog decl
      = classify host program catalog decl := by
  -- The host stands under two recursions, so that unfolding alone does not show the equality.
  have ancestors (test : ClassDecl → Bool) (decl : ClassDecl) (above : List ClassDecl)
      : anyAncestor { host with stop } test decl above = anyAncestor host test decl above := by
    induction above generalizing decl with
    | nil => rfl
    | cons parent rest ih =>
        simp only [anyAncestor, ih]
        rfl
  have markers (given : List Json)
      : carriesOne { host with stop } decl given = carriesOne host decl given := by
    induction given with
    | nil => rfl
    | cons marker rest ih =>
        simp only [carriesOne, ih]
        rfl
  simp only [classify, roleOf, isEntryContainer, isUiComponent, ancestors, markers]

/-- Collecting the records of a class does not depend on when to stop. -/
theorem Identification.classRecords_stop (decl : ClassDecl) (role : Role)
    : classRecords { host with stop } catalog decl role
      = classRecords host catalog decl role := by
  have records (kinds : List Kind) (methods : List Method)
      : recordsFor { host with stop } catalog decl kinds methods
        = recordsFor host catalog decl kinds methods := by
    induction methods with
    | nil => rfl
    | cons method rest ih =>
        simp only [recordsFor, ih]
        rfl
  simp only [classRecords, records]
  rfl

/-- An identification does not depend on when to stop. -/
theorem Identification.identify_stop (skipTests : Bool)
    : identify { host with stop } program catalog skipTests
      = identify host program catalog skipTests := by
  have roles (classes : List ClassDecl)
      : classifyAll { host with stop } program catalog classes
        = classifyAll host program catalog classes := by
    induction classes with
    | nil => rfl
    | cons decl rest ih => simp only [classifyAll, ih, Classification.classify_stop]
  have records (found : Identification) (classes : List (ClassDecl × Role))
      : collect { host with stop } catalog found classes
        = collect host catalog found classes := by
    induction classes generalizing found with
    | nil => rfl
    | cons classified rest ih => simp only [collect, ih, classRecords_stop]
  simp only [identify, roles, records]

/-- The part of an analysis before the scan does not depend on when to stop, nor on the number of
workers.
-/
theorem Analysis.prepare_stop (options : AnalysisOptions) (workers : Nat)
    : prepare { host with stop } program catalog { options with workers }
      = prepare host program catalog options := by
  simp only [prepare, identifyStage, Identification.identify_stop]
  rfl

/-- Telling the role of a class does not look up whether to stop. -/
theorem Classification.classify_quiet (decl : ClassDecl)
    : Quiet (classify host program catalog decl) := by
  have role : Quiet (roleOf host program catalog decl) :=
    (roleOf_tells host program catalog decl).quiet
  refine role.attempt.bind fun told => ?_
  cases told <;> exact .pure _

/-- An identification does not look up whether to stop, whatever the patterns of the catalog. -/
theorem Identification.identify_quiet (skipTests : Bool)
    : Quiet (identify host program catalog skipTests) := by
  have roles (classes : List ClassDecl) : Quiet (classifyAll host program catalog classes) := by
    induction classes with
    | nil => exact .pure []
    | cons decl rest ih =>
        refine (Classification.classify_quiet host program catalog decl).bind fun role => ?_
        exact ih.bind fun more => .pure _
  have records (found : Identification) (classes : List (ClassDecl × Role))
      : Quiet (collect host catalog found classes) := by
    induction classes generalizing found with
    | nil => exact .pure found
    | cons classified rest ih =>
        have quiet := (classRecords_answers host program catalog classified.1 classified.2).quiet
        refine quiet.attempt.bind fun told => ?_
        cases told with
        | ok given => exact ih _
        | error fault => exact ih _
  exact (Quiet.lift _).bind fun chosen => (roles _).bind fun classified => records _ classified

/-- The part of an analysis before the scan does not look up whether to stop. -/
theorem Analysis.prepare_quiet (options : AnalysisOptions)
    : Quiet (prepare host program catalog options) := by
  have identifying : Quiet (identifyStage host program catalog options) := by
    refine (Quiet.log host _).bind fun _ => ?_
    refine (Quiet.span host _ _
      (Identification.identify_quiet host program catalog _)).bind fun found => ?_
    exact (Quiet.log host _).bind fun _ => .pure found
  have building (entry : SyntheticMethod) (records : List Record)
      : Quiet (callGraphStage host program options entry records) := by
    refine (Quiet.log host _).bind fun _ => ?_
    refine Quiet.bind ?_ fun summary => (Quiet.log host _).bind fun _ => .pure summary
    intro before
    obtain ⟨summary, after, done, extended⟩ := CallGraphSummary.build_ok
      (options.backend.getD (.hierarchy [entry] options.nodeLimit)) host program records before
    rw [done]
    exact extended
  refine identifying.bind fun found => ?_
  refine (Quiet.log host _).bind fun _ => ?_
  exact (building _ found.records).bind fun summary => .pure _

end Unstopped

namespace Analysis

-----------------------------------------------------------------------------------------
-- What a scan of the first callbacks leads to
-----------------------------------------------------------------------------------------

/-- Two analyses have the same callbacks, found the same in their bodies, and have the same numbers
and the same coverage.
-/
structure SameFindings (left right : Analysis) : Prop where
  records : left.records = right.records
  flows : left.flows = right.flows
  issues : left.issues = right.issues
  stats : left.stats = right.stats
  snapshot : left.snapshot = right.snapshot

/-- The analysis comes from the true findings of the first `count` callbacks. -/
def Covers (catalog : Catalog) (options : AnalysisOptions) (found : Identification)
    (summary : CallGraphSummary) (count : Nat) (result : Analysis)
    : Prop :=
  ∃ results errors sweep,
    result
      = concluded catalog options found summary
          ⟨results, errors, results.length < found.records.length⟩ sweep
    ∧ (options.scope = .lifecycle → sweep = none)
    ∧ count ≤ found.records.length
    ∧ results.map ScanResult.findings
      = (found.records.take count).map (Scan.scanIn (scanOptionsOf catalog summary))

/-- As many callbacks are covered as there are results. -/
theorem Covers.cancelled {catalog : Catalog} {options : AnalysisOptions}
    {found : Identification} {summary : CallGraphSummary} {count : Nat} {result : Analysis}
    (covers : Covers catalog options found summary count result)
    (lifecycle : options.scope = .lifecycle)
    : result.cancelled = decide (count < found.records.length) := by
  obtain ⟨results, errors, sweep, same, unswept, within, findings⟩ := covers
  have length := congrArg List.length findings
  rw [List.length_map, List.length_map, List.length_take_of_le within] at length
  rw [same, unswept lifecycle, ← length]
  rfl

/-- Analyses that cover the same callbacks have the same findings.
Witness: everything but the error of the solver is among the findings of a result.
-/
theorem Covers.same {catalog : Catalog} {options : AnalysisOptions} {found : Identification}
    {summary : CallGraphSummary} {count workers : Nat} {left right : Analysis}
    (first : Covers catalog options found summary count left)
    (second : Covers catalog { options with workers } found summary count right)
    : SameFindings left right := by
  obtain ⟨results, errors, sweep, rfl, -, -, findings⟩ := first
  obtain ⟨others, more, swept, rfl, -, -, found⟩ := second
  have same := findings.trans found.symm
  have flows : results.flatMap ScanResult.flows = others.flatMap ScanResult.flows := by
    simpa [List.flatMap_map] using congrArg (List.flatMap ScanResult.flows) same
  have issues : results.flatMap ScanResult.issues = others.flatMap ScanResult.issues := by
    simpa [List.flatMap_map] using congrArg (List.flatMap ScanResult.issues) same
  have analyzed
      : (results.filter ScanResult.analyzed).length
        = (others.filter ScanResult.analyzed).length := by
    simpa [← List.countP_eq_length_filter, List.countP_map, Function.comp_def]
      using congrArg (List.countP ScanResult.analyzed) same
  refine ⟨rfl, flows, issues, ?_, ?_⟩
  · simp only [concluded, statsOf, Scanned.analyzed, Scanned.flows, Scanned.issues, flows, issues,
      analyzed]
  · simp only [concluded, Scanned.flows, flows]

-----------------------------------------------------------------------------------------
-- Scans by one worker and by several
-----------------------------------------------------------------------------------------

/-- For an obliging host the sweep never fails. -/
theorem sweepIfAsked_obliged {host : Host} (obliging : host.Obliging)
    (accepting : host.Accepting) (program : Program) (options : AnalysisOptions)
    (scanned : Scanned) (before : Session)
    : ∃ sweep after,
        outcome (sweepIfAsked host program options scanned) before = (.ok sweep, after)
        ∧ (options.scope = .lifecycle → sweep = none) := by
  unfold sweepIfAsked
  split
  · next asked =>
      obtain ⟨started, ended, -⟩ := sweepStage_ok accepting program options before
      obtain ⟨sweep, swept, done⟩ :=
        Sweep.run_obliged obliging program options.skipTestFiles.truthy started
      obtain ⟨after, staged⟩ := ended sweep swept done
      refine ⟨some sweep, after, ?_, ?_⟩
      · rw [outcome_map, staged]
        rfl
      · intro lifecycle
        rw [asked.1] at lifecycle
        cases lifecycle
  · exact ⟨none, before, rfl, fun _ => rfl⟩

/-- Whatever the number of workers and the order of their tasks, an obliging host is led to an
analysis that covers the first callbacks, and all of them if it never says to stop.
-/
theorem complete_covers {host : Host} (obliging : host.Obliging) (accepting : host.Accepting)
    (program : Program) (catalog : Catalog) {options : AnalysisOptions} (fair : options.Fair)
    (found : Identification) (summary : CallGraphSummary) (before : Session)
    : ∃ count result after,
        outcome (complete host program catalog options found summary) before
          = (.ok result, after)
        ∧ Covers catalog options found summary count result
        ∧ (host.Patient → count = found.records.length) := by
  obtain ⟨results, errors, middle, done, -, told, stopped⟩ :=
    complete_told accepting program catalog fair found summary before
  obtain ⟨sweep, after, swept, unswept⟩ := sweepIfAsked_obliged obliging accepting program options
    ⟨results, errors, results.length < found.records.length⟩ middle
  refine ⟨results.length, _, after, ?_, ⟨results, errors, sweep, rfl, unswept, told.length_le,
    map_findings_obliged told obliging⟩, ?_⟩
  · rw [done, outcome_map, swept]
    rfl
  · intro patient
    by_contra short
    obtain ⟨look, stop⟩ := stopped (Nat.lt_of_le_of_ne told.length_le short)
    simp [patient look] at stop

/-- A single worker that is told to stop after some callbacks covers exactly these.
Witness: before that it looks once for each callback, and is not told to stop.
-/
theorem complete_covers_in_order {host : Host} (obliging : host.Obliging)
    (accepting : host.Accepting) (program : Program) (catalog : Catalog)
    (options : AnalysisOptions) (found : Identification) (summary : CallGraphSummary)
    (before : Session) {count : Nat} (within : count ≤ found.records.length)
    : ∃ result after,
        outcome
            (complete (host.stoppingFrom (before.looks + count)) program catalog
              { options with workers := 1 } found summary)
            before
          = (.ok result, after)
        ∧ Covers catalog { options with workers := 1 } found summary count result := by
  have obliges : (host.stoppingFrom (before.looks + count)).Obliging := obliging
  have accepts : (host.stoppingFrom (before.looks + count)).Accepting := accepting
  obtain ⟨started, begun, staged⟩ := scanStage_ok accepts catalog { options with workers := 1 }
    summary found.records before
  obtain ⟨results, errors, middle, done, -, told, passing, stopped⟩ := scanInOrder_told
    (host.stoppingFrom (before.looks + count)) (scanOptionsOf catalog summary) found.records
    started
  -- The look after that many callbacks is the first one that says to stop.
  have exactly : results.length = count := by
    have most : results.length ≤ count := by
      by_contra more
      have passed := passing count (by omega)
      simp [Host.stoppingFrom, begun.looks] at passed
    have least : ¬ results.length < count := by
      intro fewer
      have stop := stopped (by omega)
      simp [Host.stoppingFrom, begun.looks] at stop
      omega
    omega
  obtain ⟨scanned, ended, -⟩ := staged results errors middle (by
    rw [scanAll, if_pos (Or.inl rfl), done])
  obtain ⟨sweep, after, swept, unswept⟩ := sweepIfAsked_obliged obliges accepts program
    { options with workers := 1 } ⟨results, errors, results.length < found.records.length⟩ scanned
  refine ⟨_, after, ?_, ⟨results, errors, sweep, rfl, unswept, within, ?_⟩⟩
  · rw [complete, outcome_bind_ok ended, outcome_map, swept]
    rfl
  · rw [← exactly]
    exact map_findings_obliged told obliges

/-- After the part before the scan, an analysis goes on from what that gave, whenever it is to stop
and whatever the number of workers.
-/
theorem run_prepared {host : Host} {program : Program} {catalog : Catalog}
    {options : AnalysisOptions} {found : Identification} {summary : CallGraphSummary}
    {before middle : Session}
    (prepared
      : outcome (prepare host program catalog options) before = (.ok (found, summary), middle))
    (stop : Nat → Bool) (workers : Nat)
    : outcome (run { host with stop } program catalog { options with workers }) before
      = outcome
          (complete { host with stop } program catalog { options with workers } found summary)
          middle := by
  rw [run_eq_prepare_complete, prepare_stop, outcome_bind_ok prepared]

/-- A scan by any number of workers, in any order and stopped at any moment, has the findings of a
scan in order that is stopped after some number of callbacks; that is all of them if nobody says to
stop. Only a catalog with patterns that are no texts can keep an analysis from its scan, and then
every one fails in the same way.
Witness: both have the same part before the scan, and both cover as many callbacks.
-/
theorem run_refines_in_order {host : Host} (obliging : host.Obliging)
    (accepting : host.Accepting) (program : Program) (catalog : Catalog)
    {options : AnalysisOptions} (fair : options.Fair) (before : Session)
    : (¬ catalog.PatternsAreTexts
        ∧ ∃ fault,
            (outcome (run host program catalog options) before).1 = .error fault
            ∧ ∀ stop workers,
                (outcome (run { host with stop } program catalog { options with workers })
                  before).1
                = .error fault)
      ∨ ∃ count result after reference afterwards,
          outcome (run host program catalog options) before = (.ok result, after)
          ∧ outcome
              (run (host.stoppingFrom (before.looks + count)) program catalog
                { options with workers := 1 })
              before
            = (.ok reference, afterwards)
          ∧ SameFindings result reference
          ∧ count ≤ result.records.length
          ∧ (options.scope = .lifecycle
            → result.cancelled = reference.cancelled
              ∧ result.cancelled = decide (count < result.records.length))
          ∧ (host.Patient
            → count = result.records.length
              ∧ ∃ sequential later,
                  outcome (run host program catalog { options with workers := 1 }) before
                    = (.ok sequential, later)
                  ∧ SameFindings result sequential
                  ∧ (options.scope = .lifecycle → result.cancelled = sequential.cancelled)) := by
  have begun := prepare_quiet host program catalog options before
  rcases prepared : outcome (prepare host program catalog options) before
    with ⟨fault | ⟨found, summary⟩, middle⟩
  · refine Or.inl ⟨?_, fault, ?_, ?_⟩
    · intro texts
      obtain ⟨-, found, summary, after, done, -⟩ :=
        prepare_isolated texts accepting program options before
      rw [prepared] at done
      cases done
    · rw [run_eq_prepare_complete, outcome_bind_error prepared]
    · intro stop workers
      rw [run_eq_prepare_complete, prepare_stop, outcome_bind_error prepared]
  · rw [prepared] at begun
    obtain ⟨count, result, after, done, covers, whole⟩ :=
      complete_covers obliging accepting program catalog fair found summary middle
    have ⟨_, _, _, same, _, within, _⟩ := covers
    have records : result.records = found.records := congrArg Analysis.records same
    obtain ⟨reference, afterwards, ended, covered⟩ := complete_covers_in_order obliging accepting
      program catalog options found summary middle within
    rw [begun.looks] at ended
    refine Or.inr ⟨count, result, after, reference, afterwards, ?_, ?_, covers.same covered,
      records ▸ within, ?_, ?_⟩
    · exact (run_prepared prepared host.stop options.workers).trans done
    · exact (run_prepared prepared _ 1).trans ended
    · intro lifecycle
      rw [covers.cancelled lifecycle, covered.cancelled lifecycle, records]
      exact ⟨rfl, rfl⟩
    · intro patient
      have alone : AnalysisOptions.Fair { options with workers := 1 } := fair
      obtain ⟨all, sequential, later, finished, coversAll, complete⟩ :=
        complete_covers obliging accepting program catalog alone found summary middle
      -- Nobody says to stop, so both cover all callbacks.
      rw [complete patient, ← whole patient] at coversAll
      refine ⟨records ▸ whole patient, sequential, later, ?_, covers.same coversAll, ?_⟩
      · exact (run_prepared prepared host.stop 1).trans finished
      · intro lifecycle
        rw [covers.cancelled lifecycle, coversAll.cancelled lifecycle]

/-- (impatient) is a willing host that says to stop from the second look on. -/
def impatient : Host :=
  Host.willing.stoppingFrom 1

/-- (backwards) asks for two workers that take up the callbacks from the last one on. -/
def backwards : AnalysisOptions where
  skipTestFiles := .bool true
  workers := 2
  nodeLimit := none
  scope := .lifecycle
  backend := none
  schedule := fun tasks => (List.range tasks).reverse

/-- Two workers begin with the second callback, and the first one is not scanned because the scan
is stopped in between: this is a scan in order of no callback at all.
-/
theorem run_refines_in_order_backwards
    : impatient.Obliging
      ∧ impatient.Accepting
      ∧ backwards.Fair
      ∧ ∃ count result after reference afterwards,
          outcome
              (run impatient (.ofFiles [⟨"a.ets", [abilityNamed "A", abilityNamed "B"]⟩]) .standard
                backwards)
              .fresh
            = (.ok result, after)
          ∧ outcome
              (run (impatient.stoppingFrom (0 + count))
                (.ofFiles [⟨"a.ets", [abilityNamed "A", abilityNamed "B"]⟩]) .standard
                { backwards with workers := 1 })
              .fresh
            = (.ok reference, afterwards)
          ∧ SameFindings result reference
          ∧ count ≤ result.records.length
          ∧ result.cancelled = reference.cancelled := by
  have obliging : impatient.Obliging := fun _ _ => rfl
  have accepting : impatient.Accepting := fun _ => rfl
  have fair : backwards.Fair := fun tasks => (List.range tasks).reverse_perm
  obtain ⟨count, result, after, reference, afterwards, done, ended, same, within, cancelled, -⟩ :=
    (run_refines_in_order obliging accepting
      (.ofFiles [⟨"a.ets", [abilityNamed "A", abilityNamed "B"]⟩]) .standard fair
      .fresh).resolve_left fun failed => failed.1 Catalog.standard_texts
  exact ⟨obliging, accepting, fair, count, result, after, reference,
    afterwards, done, ended, same, within, (cancelled rfl).1⟩

end Analysis

end ArkLifecycle
