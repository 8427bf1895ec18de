import ArkLifecycle.Proofs.Analysis.ParallelScan
import ArkLifecycle.Proofs.Scan.Failures

/-! The errors of an analysis stand in the order in which the workers came upon them.

Results are put back into the order of the callbacks, but errors are not. Several workers report
the same errors as one, in an order that the schedule of their tasks decides.
-/

namespace ArkLifecycle.Analysis

open Activity

variable {host : Host} {bodies : Method → Option Fault}

/-- From the scan on, the errors of an analysis are those that the workers leave.
Witness: the sweep adds no errors.
-/
theorem complete_errors (accepting : host.Accepting) (patient : host.Patient)
    (program : Program) (catalog : Catalog) {options : AnalysisOptions} (fair : options.Fair)
    (found : Identification) (summary : CallGraphSummary) {before : Session}
    (settled : host.SettledFrom before.queries found.records bodies)
    : (∀ result after,
        outcome (complete host program catalog options found summary) before = (.ok result, after)
        → result.errors
          = callGraphErrors summary
            ++ failuresBy options.workers options.schedule bodies found.records)
      ∧ (options.scope = .lifecycle
        → ∃ result after,
            outcome (complete host program catalog options found summary) before
              = (.ok result, after)) := by
  obtain ⟨started, begun, staged⟩ :=
    scanStage_ok accepting catalog options summary found.records before
  obtain ⟨results, middle, done⟩ := scanAll_failures patient (scanOptionsOf catalog summary)
    options.workers (fair found.records.length)
    (settled.later begun.queries (List.Subset.refl _))
  obtain ⟨scanned, ended, -⟩ := staged results _ middle done
  rw [complete, outcome_bind_ok ended, outcome_map]
  constructor
  -- The sweep decides whether there is a result, but not which errors it has.
  · intro result after given
    cases swept : (outcome (sweepIfAsked host program options
        ⟨results, failuresBy options.workers options.schedule bodies found.records,
          results.length < found.records.length⟩) scanned).1 with
    | error fault =>
        rw [swept] at given
        cases given
    | ok sweep =>
        rw [swept] at given
        cases given
        rfl
  · intro lifecycle
    rw [sweepIfAsked_lifecycle host program lifecycle]
    exact ⟨_, _, rfl⟩

/-- After the part before the scan, the errors of an analysis are those of the call graph and then
those that the workers leave, whatever their number.
-/
theorem run_errors (accepting : host.Accepting) (patient : host.Patient) {program : Program}
    {catalog : Catalog} {options : AnalysisOptions} (fair : options.Fair)
    {found : Identification} {summary : CallGraphSummary} {before middle : Session}
    (prepared
      : outcome (prepare host program catalog options) before = (.ok (found, summary), middle))
    (settled : host.SettledFrom middle.queries found.records bodies) (workers : Nat)
    : (∀ result after,
        outcome (run host program catalog { options with workers }) before = (.ok result, after)
        → result.errors
          = callGraphErrors summary ++ failuresBy workers options.schedule bodies found.records)
      ∧ (options.scope = .lifecycle
        → ∃ result after,
            outcome (run host program catalog { options with workers }) before
              = (.ok result, after)) := by
  have same := run_prepared prepared host.stop workers
  have shared : AnalysisOptions.Fair { options with workers } := fair
  obtain ⟨errors, ends⟩ :=
    complete_errors accepting patient program catalog shared found summary settled
  constructor
  · intro result after done
    exact errors result after (same.symm.trans done)
  · intro lifecycle
    obtain ⟨result, after, done⟩ := ends lifecycle
    exact ⟨result, after, same.trans done⟩

/-- When it is settled which bodies are denied and nobody says to stop, several workers report the
same errors as one, but in the same order exactly if the schedule takes up the callbacks that fail
in their order.
Witness: both have the same part before the scan, and each worker leaves an error when it fails.
-/
theorem run_errors_iff (accepting : host.Accepting) (patient : host.Patient)
    {program : Program} {catalog : Catalog} {options : AnalysisOptions} (fair : options.Fair)
    (several : 1 < options.workers) {found : Identification} {summary : CallGraphSummary}
    {before middle : Session}
    (prepared
      : outcome (prepare host program catalog options) before = (.ok (found, summary), middle))
    (settled : host.SettledFrom middle.queries found.records bodies)
    : (options.scope = .lifecycle
        → (∃ result after,
            outcome (run host program catalog options) before = (.ok result, after))
          ∧ ∃ sequential afterwards,
              outcome (run host program catalog { options with workers := 1 }) before
                = (.ok sequential, afterwards))
      ∧ ∀ result after sequential afterwards,
          outcome (run host program catalog options) before = (.ok result, after)
          → outcome (run host program catalog { options with workers := 1 }) before
            = (.ok sequential, afterwards)
          → result.errors.Perm sequential.errors
            ∧ (result.errors = sequential.errors
              ↔ (options.schedule found.records.length).flatMap
                  (failuresAt bodies found.records)
                = found.records.flatMap (failures bodies)) := by
  obtain ⟨reported, ends⟩ := run_errors accepting patient fair prepared settled options.workers
  obtain ⟨listed, stops⟩ := run_errors accepting patient fair prepared settled 1
  refine ⟨fun lifecycle => ⟨ends lifecycle, stops lifecycle⟩, ?_⟩
  intro result after sequential afterwards done finished
  have scheduled
      : failuresBy options.workers options.schedule bodies found.records
        = (options.schedule found.records.length).flatMap (failuresAt bodies found.records) :=
    if_neg (by omega)
  rw [reported result after done, listed sequential afterwards finished, List.append_cancel_left_eq,
    ← scheduled]
  exact ⟨(failuresBy_perm options.workers (fair found.records.length)).append_left _, Iff.rfl⟩

-----------------------------------------------------------------------------------------
-- Two callbacks that fail
-----------------------------------------------------------------------------------------

/-- (asksFor method query) holds of questions for the body of a method of the same short name. -/
def asksFor (method : Method) : Query → Bool
  | .body other => other.key == method.key
  | _ => false

/-- (forgotten method) is the fault for which a body is denied the second time. -/
def forgotten (_ : Method) : Option Fault :=
  some (.collaborator "no body")

/-- (forgetting) is a host that denies a body for which it was asked before. -/
def forgetting : Host :=
  { Host.willing with
    deny := fun history query =>
      match query with
      | .body method => if history.any (asksFor method) then forgotten method else none
      | _ => none }

/-- (neighbours) is a program of two abilities. -/
def neighbours : Program :=
  .ofFiles [⟨"a.ets", [abilityNamed "A", abilityNamed "B"]⟩]

/-- (twoWorkers schedule) asks for two workers that keep to a schedule. -/
def twoWorkers (schedule : Nat → List Nat) : AnalysisOptions :=
  { backwards with schedule }

/-- After the part before the scan both bodies are forgotten, so both callbacks fail.
Witness: identifying the callbacks asks for the bodies of both.
-/
theorem forgetting_prepared (schedule : Nat → List Nat)
    : ∃ found summary middle,
        outcome (prepare forgetting neighbours .standard (twoWorkers schedule)) .fresh
          = (.ok (found, summary), middle)
        ∧ forgetting.SettledFrom middle.queries found.records forgotten
        ∧ found.records.length = 2
        ∧ failuresAt forgotten found.records 0 = [.scan "A.onCreate" "no body"]
        ∧ failuresAt forgotten found.records 1 = [.scan "B.onCreate" "no body"] := by
  have accepting : forgetting.Accepting := fun _ => rfl
  -- Only the identification is evaluated. The call graph asks more, and what was asked stays asked.
  obtain ⟨found, middle, identified, asked, two, first, second⟩
      : ∃ found middle,
          outcome (identifyStage forgetting neighbours .standard (twoWorkers schedule)) .fresh
            = (.ok found, middle)
          ∧ found.records.all (fun record =>
              record.method.all fun method => middle.queries.any (asksFor method))
            = true
          ∧ found.records.length = 2
          ∧ failuresAt forgotten found.records 0 = [.scan "A.onCreate" "no body"]
          ∧ failuresAt forgotten found.records 1 = [.scan "B.onCreate" "no body"] :=
    ⟨_, _, rfl, rfl, rfl, rfl, rfl⟩
  obtain ⟨summary, after, prepared, extended⟩ := prepare_identified accepting identified
  refine ⟨found, summary, after, prepared, ?_, two, first, second⟩
  intro history begun record member method given
  have once := List.all_eq_true.mp asked record member
  rw [given, Option.all_some] at once
  obtain ⟨query, put, same⟩ := List.any_eq_true.mp once
  have known : history.any (asksFor method) = true :=
    List.any_eq_true.mpr ⟨query, (extended.queries.trans begun).subset put, same⟩
  simp only [forgetting, known, if_true]

/-- Workers that take up the callbacks in order report the errors as one worker does. -/
theorem run_errors_iff_forward
    : forgetting.Accepting
      ∧ forgetting.Patient
      ∧ (twoWorkers List.range).Fair
      ∧ 1 < (twoWorkers List.range).workers
      ∧ ∃ found summary middle,
          outcome (prepare forgetting neighbours .standard (twoWorkers List.range)) .fresh
            = (.ok (found, summary), middle)
          ∧ forgetting.SettledFrom middle.queries found.records forgotten
          ∧ ∃ result after sequential afterwards,
              outcome (run forgetting neighbours .standard (twoWorkers List.range)) .fresh
                = (.ok result, after)
              ∧ outcome
                  (run forgetting neighbours .standard
                    { twoWorkers List.range with workers := 1 })
                  .fresh
                = (.ok sequential, afterwards)
              ∧ result.errors = sequential.errors := by
  have accepting : forgetting.Accepting := fun _ => rfl
  have patient : forgetting.Patient := fun _ => rfl
  have fair : (twoWorkers List.range).Fair := fun tasks => .refl (List.range tasks)
  have several : 1 < (twoWorkers List.range).workers := by decide
  obtain ⟨found, summary, middle, prepared, settled, -⟩ := forgetting_prepared List.range
  obtain ⟨ends, compared⟩ := run_errors_iff accepting patient fair several prepared settled
  obtain ⟨⟨result, after, done⟩, sequential, afterwards, finished⟩ := ends rfl
  refine ⟨accepting, patient, fair, several, found, summary, middle, prepared, settled, result,
    after, sequential, afterwards, done, finished, ?_⟩
  exact (compared result after sequential afterwards done finished).2.mpr
    (flatMap_failuresAt_range forgotten found.records)

/-- Two workers that take up the second callback first report its error first, and one worker does
not.
-/
theorem run_errors_backwards
    : ∃ result after sequential afterwards graph,
        outcome (run forgetting neighbours .standard backwards) .fresh = (.ok result, after)
        ∧ outcome (run forgetting neighbours .standard { backwards with workers := 1 }) .fresh
          = (.ok sequential, afterwards)
        ∧ result.errors
          = graph ++ [.scan "B.onCreate" "no body", .scan "A.onCreate" "no body"]
        ∧ sequential.errors
          = graph ++ [.scan "A.onCreate" "no body", .scan "B.onCreate" "no body"]
        ∧ result.errors ≠ sequential.errors := by
  have accepting : forgetting.Accepting := fun _ => rfl
  have patient : forgetting.Patient := fun _ => rfl
  have fair : backwards.Fair := fun tasks => (List.range tasks).reverse_perm
  obtain ⟨found, summary, middle, prepared, settled, two, first, second⟩ :=
    forgetting_prepared backwards.schedule
  obtain ⟨reported, ends⟩ := run_errors accepting patient fair prepared settled 2
  obtain ⟨listed, stops⟩ := run_errors accepting patient fair prepared settled 1
  obtain ⟨result, after, done⟩ := ends rfl
  obtain ⟨sequential, afterwards, finished⟩ := stops rfl
  have behind
      : failuresBy 2 backwards.schedule forgotten found.records
        = [.scan "B.onCreate" "no body", .scan "A.onCreate" "no body"] := by
    rw [failuresBy, if_neg (by decide), two]
    change failuresAt forgotten found.records 1 ++ (failuresAt forgotten found.records 0 ++ []) = _
    rw [first, second]
    rfl
  have ahead
      : failuresBy 1 backwards.schedule forgotten found.records
        = [.scan "A.onCreate" "no body", .scan "B.onCreate" "no body"] := by
    rw [failuresBy, if_pos rfl, ← flatMap_failuresAt_range, two]
    change failuresAt forgotten found.records 0 ++ (failuresAt forgotten found.records 1 ++ []) = _
    rw [first, second]
    rfl
  have last := reported result after done
  have usual := listed sequential afterwards finished
  rw [behind] at last
  rw [ahead] at usual
  refine ⟨result, after, sequential, afterwards, callGraphErrors summary, done, finished, last,
    usual, ?_⟩
  rw [last, usual]
  intro same
  exact absurd (List.append_cancel_left same) (by decide)

end ArkLifecycle.Analysis
