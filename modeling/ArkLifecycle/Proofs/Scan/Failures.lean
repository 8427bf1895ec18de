import ArkLifecycle.Proofs.Scan.Findings

/-! In which order the errors of a scan come.

When it is settled which bodies are denied, the error of a callback does not depend on when its task
runs. The errors themselves come as the tasks do: in the order of the callbacks from one worker, and
in the order of the schedule from several.
-/

namespace ArkLifecycle

open Activity

/-- From some state of the log on, it is settled for which faults the bodies of callbacks are
denied.
-/
def Host.SettledFrom (host : Host) (start : List Query) (records : List Record)
    (bodies : Method → Option Fault)
    : Prop :=
  ∀ history,
    start <:+ history
    → ∀ record ∈ records, ∀ method ∈ record.method,
        host.deny history (.body method) = bodies method

/-- What is settled stays settled, also for some of the callbacks alone. -/
theorem Host.SettledFrom.later {host : Host} {start later : List Query}
    {records fewer : List Record} {bodies : Method → Option Fault}
    (settled : host.SettledFrom start records bodies) (after : start <:+ later)
    (among : fewer ⊆ records)
    : host.SettledFrom later fewer bodies :=
  fun history extended record member =>
    settled history (after.trans extended) record (among member)

namespace Analysis

variable {host : Host} {bodies : Method → Option Fault}

/-- (failures bodies record) is the error of a callback whose body is denied, if it is to be
scanned at all.
-/
def failures (bodies : Method → Option Fault) (record : Record) : List StageError :=
  if record.hasImplementation then
    match record.method.bind bodies with
    | some fault => [.scan record.key fault.message]
    | none => []
  else
    []

/-- (failuresAt bodies records place) is the error of the callback at a place. -/
def failuresAt (bodies : Method → Option Fault) (records : List Record) (place : Nat)
    : List StageError :=
  (records[place]?).elim [] (failures bodies)

/-- Taken place by place in order, the errors are those of one callback after the other.
Witness: induction over the callbacks, each place of the rest being one further.
-/
theorem flatMap_failuresAt_range (bodies : Method → Option Fault) (records : List Record)
    : (List.range records.length).flatMap (failuresAt bodies records)
      = records.flatMap (failures bodies) := by
  induction records with
  | nil => rfl
  | cons record rest ih =>
      rw [List.length_cons, List.range_succ_eq_map, List.flatMap_cons, List.flatMap_map,
        List.flatMap_cons, ← ih]
      rfl

-----------------------------------------------------------------------------------------
-- One task
-----------------------------------------------------------------------------------------

/-- The scan of a callback fails exactly if its body is denied, and then with that fault. -/
theorem scan_settled {before : Session} {record : Record}
    (settled : host.SettledFrom before.queries [record] bodies) (options : ScanOptions)
    : ∃ given after,
        outcome (Scan.scan host options record) before = (given, after)
        ∧ before.queries <:+ after.queries
        ∧ match record.method.bind bodies with
          | some fault => given = .error fault
          | none => ∃ result, given = .ok result := by
  unfold Scan.scan
  cases given : record.method with
  | none => exact ⟨_, before, rfl, List.suffix_rfl, _, rfl⟩
  | some method =>
      have answer := settled before.queries List.suffix_rfl record (by simp) method given
      let middle : Session := { before with queries := .body method :: before.queries }
      have begun : before.queries <:+ middle.queries := List.suffix_cons _ _
      have asked
          : outcome (bodyOf host method) before
            = ((bodies method).elim (.ok method.cfg) .error, middle) := by
        rw [bodyOf, outcome_asked, answer]
      rw [Option.bind_some]
      cases denied : bodies method with
      | some fault =>
          rw [denied] at asked
          exact ⟨.error fault, middle, outcome_bind_error asked, begun, rfl⟩
      | none =>
          rw [denied] at asked
          dsimp only
          rw [outcome_bind_ok asked]
          cases method.cfg with
          | none => exact ⟨_, middle, rfl, begun, _, rfl⟩
          | some cfg =>
              cases empty : cfg.isEmpty with
              | true => exact ⟨_, middle, by simp [empty], begun, Scan.nothing, rfl⟩
              | false =>
                  obtain ⟨message, after, done, step⟩ :=
                    Scan.runSolver_quiet host method cfg middle
                  simp only [empty, Bool.false_eq_true, if_false]
                  rw [outcome_bind_ok done]
                  exact ⟨_, after, rfl, begun.trans step.extends.queries, _, rfl⟩

/-- A task that is not to stop leaves the error of its callback, whatever was asked before it. -/
theorem scanTask_failures (patient : host.Patient) {before : Session} {record : Record}
    (settled : host.SettledFrom before.queries [record] bodies) (options : ScanOptions)
    : ∃ result after,
        outcome (scanTask host options record) before
          = (.ok (some result, failures bodies record), after)
        ∧ before.queries <:+ after.queries := by
  have looked := outcome_shouldStop host before
  rw [patient before.looks] at looked
  rw [scanTask, outcome_bind_ok looked]
  unfold failures
  cases record.hasImplementation with
  | false => exact ⟨Scan.nothing, _, rfl, List.suffix_rfl⟩
  | true =>
      let waited : Session := { before with looks := before.looks + 1 }
      have same : host.SettledFrom waited.queries [record] bodies := settled
      obtain ⟨given, after, done, extended, failed⟩ := scan_settled same options
      have tried := outcome_attempt (Scan.scan host options record) waited
      rw [done] at tried
      simp only [Bool.not_true, Bool.false_eq_true, if_false, if_true]
      rw [outcome_bind_ok tried]
      cases denied : record.method.bind bodies with
      | some fault =>
          rw [denied] at failed
          subst failed
          exact ⟨Scan.nothing, after, rfl, extended⟩
      | none =>
          rw [denied] at failed
          obtain ⟨result, same⟩ := failed
          subst same
          exact ⟨result, after, rfl, extended⟩

-----------------------------------------------------------------------------------------
-- All tasks
-----------------------------------------------------------------------------------------

/-- One worker leaves the errors in the order of the callbacks.
Witness: induction over the callbacks.
-/
theorem scanInOrder_failures (patient : host.Patient) (options : ScanOptions)
    (records : List Record) {before : Session}
    (settled : host.SettledFrom before.queries records bodies)
    : ∃ results after,
        outcome (scanInOrder host options records) before
          = (.ok (results, records.flatMap (failures bodies)), after) := by
  induction records generalizing before with
  | nil => exact ⟨[], before, rfl⟩
  | cons record rest ih =>
      have one : [record] ⊆ record :: rest := by simp
      obtain ⟨result, middle, done, extended⟩ :=
        scanTask_failures patient (settled.later List.suffix_rfl one) options
      obtain ⟨results, after, rested⟩ := ih (settled.later extended (List.subset_cons_self _ _))
      refine ⟨result :: results, after, ?_⟩
      rw [scanInOrder, outcome_bind_ok done]
      exact outcome_bind_ok rested

/-- Several workers leave the errors in the order in which the tasks are taken up.
Witness: induction over that order; a place without a callback is passed over.
-/
theorem runTasks_failures (patient : host.Patient) (options : ScanOptions)
    (records : List Record) (order : List Nat) {before : Session}
    (settled : host.SettledFrom before.queries records bodies)
    : ∃ results after,
        outcome (runTasks host options records order) before
          = (.ok (results, order.flatMap (failuresAt bodies records)), after) := by
  induction order generalizing before with
  | nil => exact ⟨[], before, rfl⟩
  | cons place rest ih =>
      rw [List.flatMap_cons]
      unfold runTasks failuresAt
      cases found : records[place]? with
      | none => exact ih settled
      | some record =>
          have one : [record] ⊆ records :=
            List.cons_subset.mpr ⟨List.mem_of_getElem? found, List.nil_subset _⟩
          obtain ⟨result, middle, done, extended⟩ :=
            scanTask_failures patient (settled.later List.suffix_rfl one) options
          obtain ⟨results, after, rested⟩ := ih (settled.later extended (List.Subset.refl _))
          refine ⟨(place, some result) :: results, after, ?_⟩
          dsimp only
          rw [outcome_bind_ok done]
          exact outcome_bind_ok rested

/-- (failuresBy workers schedule bodies records) are the errors of callbacks in the order in which
that many workers leave them.
-/
def failuresBy (workers : Nat) (schedule : Nat → List Nat) (bodies : Method → Option Fault)
    (records : List Record)
    : List StageError :=
  if workers = 1 then
    records.flatMap (failures bodies)
  else
    (schedule records.length).flatMap (failuresAt bodies records)

/-- Less than two tasks have only one order. -/
theorem eq_range_of_few {order : List Nat} {tasks : Nat}
    (fair : order.Perm (List.range tasks)) (few : tasks < 2)
    : order = List.range tasks := by
  match tasks, few with
  | 0, _ => exact fair.eq_nil
  | 1, _ => exact List.perm_singleton.mp fair

/-- One worker, or any number with less than two tasks, leaves the errors in order. -/
theorem failuresBy_in_order {workers : Nat} {schedule : Nat → List Nat} {records : List Record}
    (fair : (schedule records.length).Perm (List.range records.length))
    (alone : workers = 1 ∨ records.length < 2)
    : failuresBy workers schedule bodies records = records.flatMap (failures bodies) := by
  unfold failuresBy
  split
  · rfl
  · next several =>
      rw [eq_range_of_few fair (alone.resolve_left several), flatMap_failuresAt_range]

/-- A scan leaves the errors as its workers do. -/
theorem scanAll_failures (patient : host.Patient) (options : ScanOptions) (workers : Nat)
    {schedule : Nat → List Nat} {records : List Record}
    (fair : (schedule records.length).Perm (List.range records.length)) {before : Session}
    (settled : host.SettledFrom before.queries records bodies)
    : ∃ results after,
        outcome (scanAll host options workers schedule records) before
          = (.ok (results, failuresBy workers schedule bodies records), after) := by
  unfold scanAll
  by_cases alone : workers = 1 ∨ records.length < 2
  · rw [if_pos alone, failuresBy_in_order fair alone]
    exact scanInOrder_failures patient options records settled
  · rw [if_neg alone, failuresBy, if_neg fun one => alone (Or.inl one)]
    obtain ⟨results, after, done⟩ :=
      runTasks_failures patient options records (schedule records.length) settled
    exact ⟨_, after, outcome_bind_ok done⟩

/-- Whatever the number of workers, the same errors come, each as often. -/
theorem failuresBy_perm (workers : Nat) {schedule : Nat → List Nat} {records : List Record}
    (fair : (schedule records.length).Perm (List.range records.length))
    : (failuresBy workers schedule bodies records).Perm (records.flatMap (failures bodies)) := by
  unfold failuresBy
  split
  · exact .rfl
  · rw [← flatMap_failuresAt_range]
    exact fair.flatMap_right _

end Analysis

end ArkLifecycle
