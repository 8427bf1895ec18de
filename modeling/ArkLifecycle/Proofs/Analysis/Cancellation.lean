import ArkLifecycle.Proofs.Analysis.ParallelScan
import ArkLifecycle.Proofs.Sweep.Beginning

/-! What an analysis has found when it is told to stop.

A single worker looks once before each callback, and the sweep after it once before each class. The
same count of looks runs through both, so one number tells how far the analysis came.
-/

namespace ArkLifecycle

open Activity

/-- A host that says to stop from some look on does so after as many looks, or is not asked that
often.
-/
theorem Host.stoppingFrom_stopsAfter (host : Host) (looks count total : Nat)
    : (host.stoppingFrom (looks + count)).StopsAfter looks (min count total) total where
  within := Nat.min_le_right _ _
  going index before := by
    simp only [Host.stoppingFrom, decide_eq_false_iff_not]
    omega
  stopped short := by
    simp only [Host.stoppingFrom, decide_eq_true_eq]
    omega

namespace Analysis

-----------------------------------------------------------------------------------------
-- Scans that are told to stop
-----------------------------------------------------------------------------------------

/-- A scan that is not told to stop looks once for each callback. -/
theorem scanInOrder_looks (host : Host) (options : ScanOptions) (records : List Record)
    (before : Session)
    (going : ∀ index < records.length, host.stop (before.looks + index) = false)
    : (outcome (scanInOrder host options records) before).2.looks
      = before.looks + records.length := by
  induction records generalizing before with
  | nil => rfl
  | cons record rest ih =>
      obtain ⟨result, errors, middle, done, -, looked, told⟩ :=
        scanTask_told host options record before
      rcases told with ⟨-, stopped⟩ | ⟨-, found, same, -⟩
      · rw [← Nat.add_zero before.looks, going 0 (Nat.succ_pos _)] at stopped
        cases stopped
      · subst same
        have later := ih middle fun index inside => by
          have passed := going (index + 1) (Nat.succ_lt_succ inside)
          rwa [looked, Nat.add_assoc, Nat.add_comm 1 index]
        rw [scanInOrder, outcome_bind_ok done, List.length_cons]
        rcases rested : outcome (scanInOrder host options rest) middle with ⟨fault | given, after⟩
        · rw [rested] at later
          rw [outcome_bind_error rested, later, looked]
          omega
        · rw [rested] at later
          rw [outcome_bind_ok rested, outcome_pure, later, looked]
          omega

/-- Two scans do the same as long as they are told the same. -/
theorem scanInOrder_agrees (host : Host) {stop other : Nat → Bool} (options : ScanOptions)
    (records : List Record) (before : Session)
    (same : ∀ index < records.length, stop (before.looks + index) = other (before.looks + index))
    : outcome (scanInOrder { host with stop } options records) before
      = outcome (scanInOrder { host with stop := other } options records) before := by
  induction records generalizing before with
  | nil => rfl
  | cons record rest ih =>
      have here : stop before.looks = other before.looks := same 0 (Nat.succ_pos _)
      have task
          : outcome (scanTask { host with stop } options record) before
            = outcome (scanTask { host with stop := other } options record) before := by
        rw [scanTask, outcome_bind_ok (outcome_shouldStop _ before), scanTask,
          outcome_bind_ok (outcome_shouldStop _ before)]
        simp only [here]
        rfl
      obtain ⟨result, errors, middle, done, -, looked, -⟩ :=
        scanTask_told { host with stop } options record before
      have also := task.symm.trans done
      rw [scanInOrder, outcome_bind_ok done, scanInOrder, outcome_bind_ok also]
      cases result with
      | none => rfl
      | some found =>
          have later := ih middle fun index inside => by
            have passed := same (index + 1) (Nat.succ_lt_succ inside)
            rwa [looked, Nat.add_assoc, Nat.add_comm 1 index]
          rw [outcome_bind, later, outcome_bind]

/-- A single worker that is told to stop has the true findings of the callbacks before that. -/
theorem scanStage_stopsAfter {host : Host} (obliging : host.Obliging)
    (accepting : host.Accepting) (catalog : Catalog) {options : AnalysisOptions}
    (alone : options.workers = 1) (summary : CallGraphSummary) (records : List Record)
    (before : Session) {count : Nat}
    (stops : host.StopsAfter before.looks count records.length)
    : ∃ results errors after,
        outcome (scanStage host catalog options summary records) before
          = (.ok ⟨results, errors, count < records.length⟩, after)
        ∧ results.map ScanResult.findings
          = (records.take count).map (Scan.scanIn (scanOptionsOf catalog summary))
        ∧ (count = records.length → after.looks = before.looks + records.length) := by
  obtain ⟨started, begun, staged⟩ :=
    scanStage_ok accepting catalog options summary records before
  obtain ⟨results, errors, middle, done, -, told, passing, stopped⟩ :=
    scanInOrder_told host (scanOptionsOf catalog summary) records started
  have looks := scanInOrder_looks host (scanOptionsOf catalog summary) records started
  rw [begun.looks] at passing stopped looks
  have exactly : results.length = count := by
    have most : ¬ count < results.length := by
      intro more
      have stop := stops.stopped (Nat.lt_of_lt_of_le more told.length_le)
      rw [passing count more] at stop
      cases stop
    have least : ¬ results.length < count := by
      intro fewer
      have stop := stopped (Nat.lt_of_lt_of_le fewer stops.within)
      rw [stops.going results.length fewer] at stop
      cases stop
    omega
  obtain ⟨after, scanned, ended⟩ := staged results errors middle (by
    rw [scanAll, if_pos (Or.inl alone), done])
  rw [exactly] at scanned
  refine ⟨results, errors, after, scanned, ?_, ?_⟩
  · rw [← exactly]
    exact map_findings_obliged told obliging
  · intro all
    rw [all] at stops
    rw [ended.looks, ← looks stops.going, done]

/-- Two single workers that are not told to stop do the same. -/
theorem scanStage_agrees {host : Host} (accepting : host.Accepting) {stop other : Nat → Bool}
    (catalog : Catalog) {options : AnalysisOptions} (alone : options.workers = 1)
    (summary : CallGraphSummary) (records : List Record) (before : Session)
    (same : ∀ index < records.length, stop (before.looks + index) = other (before.looks + index))
    : outcome (scanStage { host with stop } catalog options summary records) before
      = outcome (scanStage { host with stop := other } catalog options summary records) before := by
  have accepts (stop : Nat → Bool) : Host.Accepting { host with stop } := accepting
  have scans (session : Session) (looks : session.looks = before.looks)
      : outcome
            (scanAll { host with stop } (scanOptionsOf catalog summary) options.workers
              options.schedule records)
            session
        = outcome
            (scanAll { host with stop := other } (scanOptionsOf catalog summary) options.workers
              options.schedule records)
            session := by
    rw [scanAll, if_pos (Or.inl alone), scanAll, if_pos (Or.inl alone)]
    exact scanInOrder_agrees host _ records session (looks ▸ same)
  have spans (session : Session) (looks : session.looks = before.looks) (given : Json.Fields)
      : outcome
            (span { host with stop } "stage.scan" given
              (scanAll { host with stop } (scanOptionsOf catalog summary) options.workers
                options.schedule records))
            session
        = outcome
            (span { host with stop := other } "stage.scan" given
              (scanAll { host with stop := other } (scanOptionsOf catalog summary)
                options.workers options.schedule records))
            session := by
    rcases done : outcome (scanAll { host with stop } (scanOptionsOf catalog summary)
      options.workers options.schedule records) (session.openSpan (.text "stage.scan"))
      with ⟨result, after⟩
    exact (outcome_span done).trans (outcome_span
      ((scans (session.openSpan _) looks).symm.trans done)).symm
  rw [scanStage, outcome_bind_ok (outcome_log (accepts stop) _ _), scanStage,
    outcome_bind_ok (outcome_log (accepts other) _ _)]
  refine (outcome_bind _ _ _).trans (Eq.trans ?_ (outcome_bind _ _ _).symm)
  simp only [scanOptionsOf] at spans
  rw [spans (before.logEvent _) rfl]
  rfl

-----------------------------------------------------------------------------------------
-- Analyses that are told to stop
-----------------------------------------------------------------------------------------

/-- The analysis agrees with the whole one in all that is known before the callbacks are scanned,
and found what there is to find in the first `count` callbacks.
-/
structure FindsFirst (catalog : Catalog) (count : Nat) (whole result : Analysis) : Prop where
  records : result.records = whole.records
  roles : result.roles = whole.roles
  entry : result.entry = whole.entry
  callGraph : result.callGraph = whole.callGraph
  coverage : result.snapshot.coverage = whole.snapshot.coverage
  byUsage : result.snapshot.byUsage = whole.snapshot.byUsage
  flows
    : result.flows
      = (whole.records.take count).flatMap fun record =>
          (Scan.scanIn (scanOptionsOf catalog whole.callGraph) record).flows
  issues
    : result.issues
      = (whole.records.take count).flatMap fun record =>
          (Scan.scanIn (scanOptionsOf catalog whole.callGraph) record).issues

/-- What is put together from the findings of the first callbacks, compared with what is put
together from any others.
-/
theorem concluded_findsFirst {catalog : Catalog} {found : Identification}
    {summary : CallGraphSummary} {count : Nat} {results : List ScanResult}
    (findings
      : results.map ScanResult.findings
        = (found.records.take count).map (Scan.scanIn (scanOptionsOf catalog summary)))
    (options others : AnalysisOptions) (errors : List StageError) (cancelled : Bool)
    (scanned : Scanned) (sweep swept : Option Sweep)
    : FindsFirst catalog count (concluded catalog others found summary scanned swept)
        (concluded catalog options found summary ⟨results, errors, cancelled⟩ sweep) where
  records := rfl
  roles := rfl
  entry := rfl
  callGraph := rfl
  coverage := rfl
  byUsage := rfl
  flows := by
    have flows := congrArg (List.flatMap ScanResult.flows) findings
    simp only [List.flatMap_map, ScanResult.findings_flows] at flows
    exact flows
  issues := by
    have issues := congrArg (List.flatMap ScanResult.issues) findings
    simp only [List.flatMap_map, ScanResult.findings_issues] at issues
    exact issues

/-- A sweep stage that is told to stop has found and counted what a sweep of the classes before that
does.
-/
theorem sweepStage_stopsAfter {host : Host} (obliging : host.Obliging)
    (accepting : host.Accepting) (program : Program) (options : AnalysisOptions)
    (before : Session) {count : Nat}
    (stops
      : host.StopsAfter before.looks count
          (Sweep.sites options.skipTestFiles.truthy program.files).length)
    : ∃ sweep after reference later,
        outcome (sweepStage host program options) before = (.ok sweep, after)
        ∧ outcome
            (Sweep.run host.patient
              (Sweep.only program
                ((Sweep.sites options.skipTestFiles.truthy program.files).take count))
              false)
            before
          = (.ok reference, later)
        ∧ Sweep.SameCounts sweep reference
        ∧ sweep.cancelled
          = decide (count < (Sweep.sites options.skipTestFiles.truthy program.files).length) := by
  let started := (before.logEvent (.stageStart (.text "project_sweep")
    [("skip_test_files", options.skipTestFiles)])).openSpan (.text "stage.project_sweep")
  have solved : started.solved = before.solved := rfl
  obtain ⟨sweep, swept, reference, later, done, also, same, cancelled⟩ :=
    Sweep.run_stopsAfter obliging program options.skipTestFiles.truthy solved stops
  exact ⟨sweep, _, reference, later, outcome_between accepting _ _ (outcome_span done), also, same,
    cancelled⟩

/-- What comes after the scan is put together with it. -/
theorem complete_scanned {host : Host} {program : Program} {catalog : Catalog}
    {options : AnalysisOptions} {found : Identification} {summary : CallGraphSummary}
    {scanned : Scanned} {sweep : Option Sweep} {before middle after : Session}
    (done
      : outcome (scanStage host catalog options summary found.records) before
        = (.ok scanned, middle))
    (swept : outcome (sweepIfAsked host program options scanned) middle = (.ok sweep, after))
    : outcome (complete host program catalog options found summary) before
      = (.ok (concluded catalog options found summary scanned sweep), after) := by
  rw [complete, outcome_bind_ok done, outcome_map, swept]
  rfl

/-- With the project in scope, the sweep after a scan that was not told to stop goes on with the
looks that are left. It begins where an analysis of the callbacks alone ends.
-/
theorem complete_stopped_swept {host : Host} (obliging : host.Obliging)
    (accepting : host.Accepting) (program : Program) (catalog : Catalog)
    {options : AnalysisOptions} (alone : options.workers = 1) (project : options.scope = .project)
    (found : Identification) (summary : CallGraphSummary) (before : Session) {count : Nat}
    (whole : found.records.length ≤ count)
    : ∃ results errors sweep after callbacks scanned reference later,
        outcome
            (complete (host.stoppingFrom (before.looks + count)) program catalog options found
              summary)
            before
          = (.ok (concluded catalog options found summary ⟨results, errors, false⟩ (some sweep)),
            after)
        ∧ results.map ScanResult.findings
          = (found.records.take count).map (Scan.scanIn (scanOptionsOf catalog summary))
        ∧ outcome
            (complete host.patient program catalog { options with scope := .lifecycle } found
              summary)
            before
          = (.ok callbacks, scanned)
        ∧ outcome
            (Sweep.run host.patient
              (Sweep.only program
                ((Sweep.sites options.skipTestFiles.truthy program.files).take
                  (count - found.records.length)))
              false)
            scanned
          = (.ok reference, later)
        ∧ Sweep.SameCounts sweep reference
        ∧ sweep.cancelled
          = decide
              (count
                < found.records.length
                  + (Sweep.sites options.skipTestFiles.truthy program.files).length) := by
  let stopping := host.stoppingFrom (before.looks + count)
  have obliges : stopping.Obliging := obliging
  have accepts : stopping.Accepting := accepting
  have stops := host.stoppingFrom_stopsAfter before.looks count found.records.length
  rw [Nat.min_eq_right whole] at stops
  obtain ⟨results, errors, scanned, done, findings, looks⟩ :=
    scanStage_stopsAfter obliges accepts catalog alone summary found.records before stops
  rw [decide_eq_false (Nat.lt_irrefl _)] at done
  -- Nobody has said to stop yet, so that a patient host is left in the same session.
  have patiently
      : outcome (scanStage stopping catalog options summary found.records) before
        = outcome (scanStage host.patient catalog options summary found.records) before :=
    scanStage_agrees accepting catalog alone summary found.records before stops.going
  let callbacks := concluded catalog { options with scope := .lifecycle } found summary
    ⟨results, errors, false⟩ none
  have left := host.stoppingFrom_stopsAfter scanned.looks (count - found.records.length)
    (Sweep.sites options.skipTestFiles.truthy program.files).length
  have same : scanned.looks + (count - found.records.length) = before.looks + count := by
    rw [looks rfl]
    omega
  rw [same] at left
  obtain ⟨sweep, after, reference, later, swept, also, counts, cancelled⟩ :=
    sweepStage_stopsAfter obliges accepts program options scanned left
  refine ⟨results, errors, sweep, after, callbacks, scanned, reference, later, ?_, ?_, ?_, ?_,
    counts, ?_⟩
  · refine complete_scanned done ?_
    rw [sweepIfAsked, if_pos ⟨project, rfl⟩, outcome_map, swept]
    rfl
  · rw [findings, List.take_length, List.take_of_length_le whole]
  · refine complete_scanned (patiently.symm.trans done) ?_
    rw [sweepIfAsked_lifecycle _ _ rfl]
    rfl
  · rw [List.take_eq_take_min]
    exact also
  · rw [cancelled, decide_eq_decide]
    omega

/-- A scan that is told to stop early is followed by no sweep, and neither is any scan when only the
callbacks are in scope.
-/
theorem complete_stopped_unswept {host : Host} (obliging : host.Obliging)
    (accepting : host.Accepting) (program : Program) (catalog : Catalog)
    {options : AnalysisOptions} (alone : options.workers = 1)
    (found : Identification) (summary : CallGraphSummary) (before : Session) {count : Nat}
    (unswept : options.scope = .lifecycle ∨ count < found.records.length)
    : ∃ results errors after,
        outcome
            (complete (host.stoppingFrom (before.looks + count)) program catalog options found
              summary)
            before
          = (.ok (concluded catalog options found summary
              ⟨results, errors, count < found.records.length⟩ none), after)
        ∧ results.map ScanResult.findings
          = (found.records.take count).map (Scan.scanIn (scanOptionsOf catalog summary)) := by
  let stopping := host.stoppingFrom (before.looks + count)
  have obliges : stopping.Obliging := obliging
  have accepts : stopping.Accepting := accepting
  obtain ⟨results, errors, after, done, findings, -⟩ :=
    scanStage_stopsAfter obliges accepts catalog alone summary found.records before
      (host.stoppingFrom_stopsAfter before.looks count found.records.length)
  rw [← List.take_eq_take_min] at findings
  have early : (min count found.records.length < found.records.length)
      ↔ count < found.records.length := by
    omega
  simp only [early] at done
  refine ⟨results, errors, after, complete_scanned done ?_, findings⟩
  rcases unswept with lifecycle | short
  · rw [sweepIfAsked_lifecycle _ _ lifecycle]
    rfl
  · rw [sweepIfAsked, decide_eq_true short, if_neg (by simp)]
    rfl

-----------------------------------------------------------------------------------------
-- What was found in time
-----------------------------------------------------------------------------------------

section Stopped

variable {host : Host} {program : Program} {catalog : Catalog} {options : AnalysisOptions}
  {before middle : Session} {count : Nat} {found : Identification} {summary : CallGraphSummary}

/-- The sweep has found and counted what a sweep of the first `count` classes does, where the solver
was called for all callbacks before.
-/
def SweepsFirst (host : Host) (program : Program) (catalog : Catalog) (options : AnalysisOptions)
    (before : Session) (count : Nat) (sweep : Sweep)
    : Prop :=
  ∃ callbacks scanned reference later,
    outcome
        (run host.patient program catalog { options with workers := 1, scope := .lifecycle }) before
      = (.ok callbacks, scanned)
    ∧ outcome
        (Sweep.run host.patient
          (Sweep.only program ((Sweep.sites options.skipTestFiles.truthy program.files).take count))
          false)
        scanned
      = (.ok reference, later)
    ∧ Sweep.SameCounts sweep reference

/-- The analysis of a single worker that was told to stop after `count` looks, compared with the
whole one. It has the findings of as many callbacks. With the project in scope it is not swept when
the looks do not suffice for all callbacks; else the sweep came as far as the looks that are left.
-/
structure FindsInTime (host : Host) (program : Program) (catalog : Catalog)
    (options : AnalysisOptions) (before : Session) (count : Nat) (whole result : Analysis)
    : Prop where
  complete : FindsFirst catalog whole.records.length whole whole
  found : FindsFirst catalog count whole result
  stopped
    : options.scope = .lifecycle → (result.cancelled = true ↔ count < whole.records.length)
  unswept
    : options.scope = .project → (result.sweep = none ↔ count < whole.records.length)
  stoppedInProject
    : options.scope = .project
      → (result.cancelled = true
        ↔ count
          < whole.records.length
            + (Sweep.sites options.skipTestFiles.truthy program.files).length)
  swept
    : options.scope = .project
      → ∀ sweep,
          result.sweep = some sweep
          → SweepsFirst host program catalog options before (count - whole.records.length) sweep

/-- Only a pattern that is no text can keep an analysis from its scan, and it does so whenever
anybody says to stop.
-/
theorem run_unprepared (accepting : host.Accepting) {fault : Fault}
    (failed : outcome (prepare host program catalog options) before = (.error fault, middle))
    : ¬ catalog.PatternsAreTexts
      ∧ ∀ stop,
          (outcome (run { host with stop } program catalog { options with workers := 1 })
            before).1
          = .error fault := by
  refine ⟨fun texts => ?_, fun stop => ?_⟩
  · obtain ⟨-, found, summary, after, done, -⟩ :=
      prepare_isolated texts accepting program options before
    rw [failed] at done
    cases done
  · rw [run_eq_prepare_complete, prepare_stop, outcome_bind_error failed]

/-- When nobody says to stop, a single worker has the findings of all callbacks. -/
theorem run_patient (obliging : host.Obliging) (accepting : host.Accepting)
    (prepared
      : outcome (prepare host program catalog options) before = (.ok (found, summary), middle))
    : ∃ scanned swept after,
        outcome (run host.patient program catalog { options with workers := 1 }) before
          = (.ok (concluded catalog { options with workers := 1 } found summary scanned swept),
            after)
        ∧ scanned.results.map ScanResult.findings
          = (found.records.take found.records.length).map
              (Scan.scanIn (scanOptionsOf catalog summary)) := by
  let single : AnalysisOptions := { options with workers := 1 }
  have unstopped : host.patient.Obliging := obliging
  have welcoming : host.patient.Accepting := accepting
  obtain ⟨results, errors, scanned, done, findings, -⟩ :=
    scanStage_stopsAfter unstopped welcoming catalog (rfl : single.workers = 1) summary
      found.records middle (host.patient_stopsAfter middle.looks found.records.length)
  obtain ⟨swept, after, sweeping, -⟩ := sweepIfAsked_obliged unstopped welcoming program single
    ⟨results, errors, found.records.length < found.records.length⟩ scanned
  exact ⟨_, swept, after,
    (run_prepared prepared (fun _ => false) 1).trans (complete_scanned done sweeping), findings⟩

/-- An analysis that comes to no sweep, since it is stopped early or is not asked for one. -/
theorem findsInTime_unswept (obliging : host.Obliging) (accepting : host.Accepting)
    (prepared
      : outcome (prepare host program catalog options) before = (.ok (found, summary), middle))
    {scanned : Scanned}
    (findings
      : scanned.results.map ScanResult.findings
        = (found.records.take found.records.length).map
            (Scan.scanIn (scanOptionsOf catalog summary)))
    (swept : Option Sweep) (unswept : options.scope = .lifecycle ∨ count < found.records.length)
    : ∃ result after,
        outcome
            (run (host.stoppingFrom (middle.looks + count)) program catalog
              { options with workers := 1 })
            before
          = (.ok result, after)
        ∧ FindsInTime host program catalog options before count
            (concluded catalog { options with workers := 1 } found summary scanned swept)
            result := by
  let single : AnalysisOptions := { options with workers := 1 }
  obtain ⟨results, errors, after, done, first⟩ := complete_stopped_unswept obliging accepting
    program catalog (rfl : single.workers = 1) found summary middle unswept
  have short (project : options.scope = .project) : count < found.records.length :=
    unswept.resolve_left fun lifecycle => nomatch project.symm.trans lifecycle
  refine ⟨_, after, (run_prepared prepared _ 1).trans done, ?_⟩
  constructor
  case complete => exact concluded_findsFirst findings ..
  case found => exact concluded_findsFirst first ..
  case stopped => exact fun _ => decide_eq_true_iff
  case unswept => exact fun project => iff_of_true rfl (short project)
  case stoppedInProject =>
    exact fun project => iff_of_true (decide_eq_true (short project))
      (Nat.lt_add_right _ (short project))
  case swept => exact fun _ _ none => nomatch none

/-- An analysis of the project that comes to the sweep. -/
theorem findsInTime_swept (obliging : host.Obliging) (accepting : host.Accepting)
    (prepared
      : outcome (prepare host program catalog options) before = (.ok (found, summary), middle))
    {scanned : Scanned}
    (findings
      : scanned.results.map ScanResult.findings
        = (found.records.take found.records.length).map
            (Scan.scanIn (scanOptionsOf catalog summary)))
    (swept : Option Sweep) (project : options.scope = .project)
    (enough : found.records.length ≤ count)
    : ∃ result after,
        outcome
            (run (host.stoppingFrom (middle.looks + count)) program catalog
              { options with workers := 1 })
            before
          = (.ok result, after)
        ∧ FindsInTime host program catalog options before count
            (concluded catalog { options with workers := 1 } found summary scanned swept)
            result := by
  let single : AnalysisOptions := { options with workers := 1 }
  obtain ⟨results, errors, sweep, after, callbacks, last, reference, later, done, first, alone,
    also, counts, cancelled⟩ := complete_stopped_swept obliging accepting program catalog
      (rfl : single.workers = 1) project found summary middle enough
  have unscoped
      : outcome (prepare host program catalog { options with scope := .lifecycle }) before
        = (.ok (found, summary), middle) :=
    prepared
  refine ⟨_, after, (run_prepared prepared _ 1).trans done, ?_⟩
  constructor
  case complete => exact concluded_findsFirst findings ..
  case found => exact concluded_findsFirst first ..
  case stopped => exact fun lifecycle => nomatch project.symm.trans lifecycle
  case unswept => exact fun _ => iff_of_false nofun (Nat.not_lt.mpr enough)
  case stoppedInProject =>
    exact fun _ => (Bool.eq_iff_iff.mp cancelled).trans decide_eq_true_iff
  case swept =>
    rintro - _ ⟨⟩
    exact ⟨callbacks, last, reference, later,
      (run_prepared unscoped (fun _ => false) 1).trans alone, also, counts⟩

end Stopped

/-- An analysis by a single worker that is told to stop after some looks has found what there is to
find in time. Only a pattern that is no text can keep it from that, and then the whole analysis
fails as well.
Witness: the scan takes one look for each callback, and the sweep goes on with the looks that are
left.
-/
theorem run_stopped_findsFirst {host : Host} (obliging : host.Obliging)
    (accepting : host.Accepting) (program : Program) (catalog : Catalog)
    (options : AnalysisOptions) (before : Session) (count : Nat)
    : (¬ catalog.PatternsAreTexts
        ∧ ∃ fault,
            ∀ stop,
              (outcome (run { host with stop } program catalog { options with workers := 1 })
                before).1
              = .error fault)
      ∨ ∃ whole ended result after,
          outcome (run host.patient program catalog { options with workers := 1 }) before
            = (.ok whole, ended)
          ∧ outcome
              (run (host.stoppingFrom (before.looks + count)) program catalog
                { options with workers := 1 })
              before
            = (.ok result, after)
          ∧ FindsInTime host program catalog options before count whole result := by
  have begun := prepare_quiet host program catalog options before
  rcases prepared : outcome (prepare host program catalog options) before
    with ⟨fault | ⟨found, summary⟩, middle⟩
  · obtain ⟨untexted, fails⟩ := run_unprepared accepting prepared
    exact Or.inl ⟨untexted, fault, fails⟩
  · rw [prepared] at begun
    rw [← begun.looks]
    obtain ⟨scanned, swept, ended, whole, findings⟩ := run_patient obliging accepting prepared
    by_cases unswept : options.scope = .lifecycle ∨ count < found.records.length
    · obtain ⟨result, after, stopped, finds⟩ :=
        findsInTime_unswept obliging accepting prepared findings swept unswept
      exact Or.inr ⟨_, ended, result, after, whole, stopped, finds⟩
    · obtain ⟨lifecycle, enough⟩ := not_or.mp unswept
      have project : options.scope = .project := by
        cases scope : options.scope with
        | lifecycle => exact absurd scope lifecycle
        | project => rfl
      obtain ⟨result, after, stopped, finds⟩ := findsInTime_swept obliging accepting prepared
        findings swept project (Nat.le_of_not_lt enough)
      exact Or.inr ⟨_, ended, result, after, whole, stopped, finds⟩

/-- (wholeProject) asks a single worker for the whole project. -/
def wholeProject : AnalysisOptions where
  skipTestFiles := .bool true
  workers := 1
  nodeLimit := none
  scope := .project
  backend := none
  schedule := List.range

/-- Three looks are left for two callbacks and the first of two classes. -/
theorem run_stopped_findsFirst_project
    : Host.willing.Obliging
      ∧ Host.willing.Accepting
      ∧ ∃ whole ended result after,
          outcome
              (run Host.willing.patient
                (.ofFiles [⟨"a.ets", [abilityNamed "A", abilityNamed "B"]⟩]) .standard
                wholeProject)
              .fresh
            = (.ok whole, ended)
          ∧ outcome
              (run (Host.willing.stoppingFrom (0 + 3))
                (.ofFiles [⟨"a.ets", [abilityNamed "A", abilityNamed "B"]⟩]) .standard
                wholeProject)
              .fresh
            = (.ok result, after)
          ∧ FindsFirst .standard 3 whole result
          ∧ (result.sweep = none ↔ 3 < whole.records.length)
          ∧ (result.cancelled = true ↔ 3 < whole.records.length + 2) := by
  have obliging := Host.willing_denies_nothing
  have accepting : Host.willing.Accepting := fun _ => rfl
  obtain ⟨whole, ended, result, after, done, stopped, finds⟩ :=
    (run_stopped_findsFirst obliging accepting
      (.ofFiles [⟨"a.ets", [abilityNamed "A", abilityNamed "B"]⟩]) .standard wholeProject .fresh
      3).resolve_left fun failed => failed.1 Catalog.standard_texts
  exact ⟨obliging, accepting, whole, ended, result, after, done, stopped, finds.found,
    finds.unswept rfl, finds.stoppedInProject rfl⟩

end Analysis

end ArkLifecycle
