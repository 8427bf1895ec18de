import ArkLifecycle.Proofs.Scan.Findings

/-! Which callbacks a scan covers, in order or by several workers.

Workers may take up the callbacks in any order, and some of them may find that they are to stop
before others do. The results always belong to a beginning of the list of callbacks.
-/

namespace ArkLifecycle.Analysis

open Activity

/-- The results are those of the first callbacks, in their order. -/
def TellsBeginning (host : Host) (options : ScanOptions) (errors : List StageError)
    (start finish : List Query) (records : List Record) (results : List ScanResult)
    : Prop :=
  List.Forall₂ (Told host options errors start finish) (records.take results.length) results

/-- There are no more results than callbacks. -/
theorem TellsBeginning.length_le {host : Host} {options : ScanOptions}
    {errors : List StageError} {start finish : List Query} {records : List Record}
    {results : List ScanResult}
    (told : TellsBeginning host options errors start finish records results)
    : results.length ≤ records.length := by
  have equal := List.Forall₂.length_eq told
  rw [List.length_take] at equal
  omega

-----------------------------------------------------------------------------------------
-- One after the other
-----------------------------------------------------------------------------------------

/-- A scan in order covers the callbacks up to the first look that says to stop.
Witness: induction over the callbacks, each of which takes one look.
-/
theorem scanInOrder_told (host : Host) (options : ScanOptions) (records : List Record)
    (before : Session)
    : ∃ results errors after,
        outcome (scanInOrder host options records) before = (.ok (results, errors), after)
        ∧ before.queries <:+ after.queries
        ∧ TellsBeginning host options errors before.queries after.queries records results
        ∧ (∀ index < results.length, host.stop (before.looks + index) = false)
        ∧ (results.length < records.length
          → host.stop (before.looks + results.length) = true) := by
  induction records generalizing before with
  | nil => exact ⟨[], [], before, rfl, List.suffix_rfl, .nil, by simp, by simp⟩
  | cons record rest ih =>
      obtain ⟨result, errors, middle, done, begun, looked, told⟩ :=
        scanTask_told host options record before
      rcases told with ⟨none, stopped⟩ | ⟨going, found, same, told⟩
      · subst none
        refine ⟨[], errors, middle, ?_, begun, .nil, by simp, fun _ => stopped⟩
        rw [scanInOrder, outcome_bind_ok done]
        rfl
      · subst same
        obtain ⟨results, more, after, rested, extended, later, passing, stopped⟩ := ih middle
        refine ⟨found :: results, errors ++ more, after, ?_, begun.trans extended, ?_, ?_, ?_⟩
        · rw [scanInOrder, outcome_bind_ok done]
          exact outcome_bind_ok rested
        · refine .cons (told.widen (List.subset_append_left _ _) List.suffix_rfl extended) ?_
          exact later.imp fun _ _ told =>
            told.widen (List.subset_append_right _ _) begun List.suffix_rfl
        · intro index inside
          cases index with
          | zero => exact going
          | succ index =>
              have passed := passing index (Nat.lt_of_succ_lt_succ inside)
              rwa [looked, Nat.add_right_comm, Nat.add_assoc] at passed
        · intro short
          have stop := stopped (Nat.lt_of_succ_lt_succ short)
          rwa [looked, Nat.add_right_comm, Nat.add_assoc] at stop

-----------------------------------------------------------------------------------------
-- In any order
-----------------------------------------------------------------------------------------

/-- A task for the callback at a place was to stop, or it told of that callback. -/
def TaskTold (host : Host) (options : ScanOptions) (errors : List StageError)
    (start finish : List Query) (record : Record) (result : Option ScanResult)
    : Prop :=
  (result = none ∧ ∃ look, host.stop look = true)
  ∨ ∃ found, result = some found ∧ Told host options errors start finish record found

/-- Every task in the order runs and tells of the callback at its place.
Witness: induction over the order; the errors of a task are among those of all tasks.
-/
theorem runTasks_told (host : Host) (options : ScanOptions) (records : List Record)
    (order : List Nat) (inside : ∀ place ∈ order, place < records.length) (before : Session)
    : ∃ results errors after,
        outcome (runTasks host options records order) before = (.ok (results, errors), after)
        ∧ before.queries <:+ after.queries
        ∧ results.map Prod.fst = order
        ∧ ∀ entry ∈ results,
            ∃ record,
              records[entry.1]? = some record
              ∧ TaskTold host options errors before.queries after.queries record entry.2 := by
  induction order generalizing before with
  | nil => exact ⟨[], [], before, rfl, List.suffix_rfl, rfl, by simp⟩
  | cons place rest ih =>
      obtain ⟨record, found⟩ : ∃ record, records[place]? = some record :=
        ⟨_, List.getElem?_eq_getElem (inside place (by simp))⟩
      obtain ⟨result, errors, middle, done, begun, -, told⟩ :=
        scanTask_told host options record before
      obtain ⟨results, more, after, rested, extended, places, later⟩ :=
        ih (fun place member => inside place (List.mem_cons_of_mem _ member)) middle
      refine ⟨(place, result) :: results, errors ++ more, after, ?_, begun.trans extended,
        by simp [places], ?_⟩
      · simp only [runTasks, found]
        rw [outcome_bind_ok done]
        exact outcome_bind_ok rested
      · intro entry member
        rcases List.mem_cons.mp member with first | member
        · subst first
          refine ⟨record, found, ?_⟩
          rcases told with ⟨none, stopped⟩ | ⟨-, found, same, told⟩
          · exact Or.inl ⟨none, _, stopped⟩
          · exact Or.inr ⟨found, same,
              told.widen (List.subset_append_left _ _) List.suffix_rfl extended⟩
        · obtain ⟨record, listed, stopped | ⟨found, same, told⟩⟩ := later entry member
          · exact ⟨record, listed, Or.inl stopped⟩
          · exact ⟨record, listed, Or.inr ⟨found, same,
              told.widen (List.subset_append_right _ _) begun List.suffix_rfl⟩⟩

/-- (resultAt results place) is what the task at a place gave, if there was one. -/
def resultAt (results : List (Nat × Option ScanResult)) (place : Nat) : Option ScanResult :=
  ((results.find? fun entry => entry.1 == place).map Prod.snd).join

/-- The result at a place is that of a task in the list.
Witness: the first entry for that place.
-/
theorem mem_resultAt {results : List (Nat × Option ScanResult)} {place : Nat}
    (listed : place ∈ results.map Prod.fst)
    : (place, resultAt results place) ∈ results := by
  cases found : results.find? fun entry => entry.1 == place with
  | none =>
      obtain ⟨entry, member, same⟩ := List.mem_map.mp listed
      exact absurd (beq_iff_eq.mpr same) (List.find?_eq_none.mp found entry member)
  | some entry =>
      have same : entry.1 = place := by simpa using List.find?_some found
      have shown : (place, resultAt results place) = entry :=
        Prod.ext same.symm (by simp [resultAt, found])
      exact shown ▸ List.mem_of_find?_eq_some found

/-- The completed results from some place on belong to a beginning of the callbacks from there on;
when one is missing, its task was to stop.
Witness: induction over the callbacks from that place on.
-/
theorem completed_told {host : Host} {options : ScanOptions} {errors : List StageError}
    {start finish : List Query} {results : List (Nat × Option ScanResult)} (place : Nat)
    (records : List Record)
    (told
      : ∀ index record,
          records[index]? = some record
          → TaskTold host options errors start finish record
              (resultAt results (place + index)))
    : TellsBeginning host options errors start finish records
        (completed results (List.range' place records.length))
      ∧ ((completed results (List.range' place records.length)).length < records.length
        → ∃ look, host.stop look = true) := by
  induction records generalizing place with
  | nil => exact ⟨.nil, by simp⟩
  | cons record rest ih =>
      -- Seen from the next place, every callback of the rest stands one earlier.
      have next
          : ∀ index other,
              rest[index]? = some other
              → TaskTold host options errors start finish other
                  (resultAt results (place + 1 + index)) := by
        intro index other listed
        have later := told (index + 1) other (by simpa using listed)
        rwa [Nat.add_comm index 1, ← Nat.add_assoc] at later
      obtain ⟨beginning, missing⟩ := ih (place + 1) next
      have first := told 0 record rfl
      rw [Nat.add_zero] at first
      unfold resultAt at first
      simp only [List.length_cons, List.range'_succ, completed]
      rcases first with ⟨none, stopped⟩ | ⟨found, same, told⟩
      · rw [none]
        exact ⟨.nil, fun _ => stopped⟩
      · rw [same]
        refine ⟨.cons told beginning, fun short => missing ?_⟩
        simpa using short

/-- The results of a scan belong to a beginning of the callbacks, whatever the order of the tasks.
It is not the whole list only if some look said to stop.
Witness: an order of the tasks that leaves none out gives a result for every place.
-/
theorem scanAll_told (host : Host) (options : ScanOptions) (workers : Nat)
    {schedule : Nat → List Nat} (records : List Record)
    (fair : (schedule records.length).Perm (List.range records.length)) (before : Session)
    : ∃ results errors after,
        outcome (scanAll host options workers schedule records) before
          = (.ok (results, errors), after)
        ∧ before.queries <:+ after.queries
        ∧ TellsBeginning host options errors before.queries after.queries records results
        ∧ (results.length < records.length → ∃ look, host.stop look = true) := by
  by_cases alone : workers = 1 ∨ records.length < 2
  · obtain ⟨results, errors, after, done, extended, told, -, stopped⟩ :=
      scanInOrder_told host options records before
    refine ⟨results, errors, after, ?_, extended, told, fun short => ⟨_, stopped short⟩⟩
    rw [scanAll, if_pos alone, done]
  · obtain ⟨results, errors, after, done, extended, places, told⟩ :=
      runTasks_told host options records (schedule records.length)
        (fun place member => List.mem_range.mp (fair.mem_iff.mp member)) before
    have reported (index : Nat) (record : Record) (listed : records[index]? = some record)
        : TaskTold host options errors before.queries after.queries record
            (resultAt results (0 + index)) := by
      have inside : index < records.length := (List.getElem?_eq_some_iff.mp listed).1
      rw [Nat.zero_add]
      obtain ⟨same, found, task⟩ := told _ (mem_resultAt
        (by rw [places]; exact fair.mem_iff.mpr (List.mem_range.mpr inside)))
      rw [listed] at found
      exact Option.some.inj found ▸ task
    obtain ⟨beginning, missing⟩ := completed_told 0 records reported
    refine ⟨_, errors, after, ?_, extended, beginning, missing⟩
    rw [scanAll, if_neg alone, outcome_bind_ok done, List.range_eq_range']
    rfl

end ArkLifecycle.Analysis
