import ArkLifecycle.Proofs.Scan.Schedule

/-! Two scans of the same callbacks go side by side.

When to stop is looked up once for each task, whatever the task is to find. So two scans that differ
only in what they look for cover the same callbacks, if the same is said to both at each look.
-/

namespace ArkLifecycle

namespace Activity

variable {α β γ δ : Type} {related : α → β → Prop} {linked : γ → δ → Prop}

/-- In sessions with as many looks both tasks succeed, what they give is related, and they leave
sessions with as many looks.
-/
def Abreast (related : α → β → Prop) (task : Activity α) (other : Activity β) : Prop :=
  ∀ before elsewhere,
    before.looks = elsewhere.looks
    → ∃ value given after afterwards,
        outcome task before = (.ok value, after)
        ∧ outcome other elsewhere = (.ok given, afterwards)
        ∧ after.looks = afterwards.looks
        ∧ related value given

theorem Abreast.pure {value : α} {given : β} (relates : related value given)
    : Abreast related (Pure.pure value) (Pure.pure given) :=
  fun before elsewhere looks => ⟨value, given, before, elsewhere, rfl, rfl, looks, relates⟩

theorem Abreast.bind {task : Activity α} {other : Activity β} {next : α → Activity γ}
    {following : β → Activity δ} (first : Abreast related task other)
    (second
      : ∀ value given, related value given → Abreast linked (next value) (following given))
    : Abreast linked (task >>= next) (other >>= following) := by
  intro before elsewhere looks
  obtain ⟨value, given, middle, between, done, also, looks, relates⟩ :=
    first before elsewhere looks
  obtain ⟨result, reply, after, afterwards, ended, alsoEnded, looks, links⟩ :=
    second value given relates middle between looks
  exact ⟨result, reply, after, afterwards, (outcome_bind_ok done).trans ended,
    (outcome_bind_ok also).trans alsoEnded, looks, links⟩

end Activity

namespace Analysis

open Activity

variable (host : Host) (options others : ScanOptions)

/-- Two tasks for one callback are both to stop, or none of them is. -/
theorem scanTask_abreast (record : Record)
    : Abreast (fun left right => left.1.isSome = right.1.isSome)
        (scanTask host options record) (scanTask host others record) := by
  intro before elsewhere looks
  obtain ⟨result, errors, after, done, -, looked, told⟩ :=
    scanTask_told host options record before
  obtain ⟨other, more, afterwards, also, -, alsoLooked, alsoTold⟩ :=
    scanTask_told host others record elsewhere
  refine ⟨_, _, after, afterwards, done, also, by rw [looked, alsoLooked, looks], ?_⟩
  -- Both look at the same moment, so the host says the same to both.
  rw [← looks] at alsoTold
  rcases told with ⟨rfl, stopped⟩ | ⟨going, found, rfl, -⟩
  · rcases alsoTold with ⟨rfl, -⟩ | ⟨alsoGoing, -⟩
    · rfl
    · rw [stopped] at alsoGoing
      cases alsoGoing
  · rcases alsoTold with ⟨-, alsoStopped⟩ | ⟨-, given, rfl, -⟩
    · rw [going] at alsoStopped
      cases alsoStopped
    · rfl

theorem scanInOrder_abreast (records : List Record)
    : Abreast (fun left right => left.1.length = right.1.length)
        (scanInOrder host options records) (scanInOrder host others records) := by
  induction records with
  | nil => exact .pure rfl
  | cons record rest ih =>
      refine (scanTask_abreast host options others record).bind ?_
      rintro ⟨result, errors⟩ ⟨other, more⟩ same
      cases result with
      | none =>
          cases other with
          | none => exact .pure rfl
          | some found => cases same
      | some found =>
          cases other with
          | none => cases same
          | some given => exact ih.bind fun left right length => .pure (congrArg (· + 1) length)

/-- (passed results) tells of every task whether it was to stop. -/
def passed (results : List (Nat × Option ScanResult)) : List (Nat × Bool) :=
  results.map fun entry => (entry.1, entry.2.isSome)

theorem runTasks_abreast (records : List Record) (order : List Nat)
    : Abreast (fun left right => passed left.1 = passed right.1)
        (runTasks host options records order) (runTasks host others records order) := by
  induction order with
  | nil => exact .pure rfl
  | cons place rest ih =>
      unfold runTasks
      cases records[place]? with
      | none => exact ih
      | some record =>
          refine (scanTask_abreast host options others record).bind fun left right same => ?_
          refine ih.bind fun _ _ rested => .pure ?_
          simp only [passed, List.map_cons, same] at rested ⊢
          rw [rested]

/-- A task has a result at a place exactly if the first one for that place was not to stop. -/
theorem isSome_resultAt (results : List (Nat × Option ScanResult)) (place : Nat)
    : (resultAt results place).isSome
      = (((passed results).find? fun entry => entry.1 == place).map Prod.snd).getD false := by
  have test
      : ((fun entry : Nat × Bool => entry.1 == place)
          ∘ fun entry : Nat × Option ScanResult => (entry.1, entry.2.isSome))
        = fun entry => entry.1 == place :=
    rfl
  rw [resultAt, passed, List.find?_map, test]
  cases results.find? fun entry => entry.1 == place with
  | none => rfl
  | some entry => simp

/-- How many results are completed depends only on which tasks were to stop. -/
theorem length_completed {results more : List (Nat × Option ScanResult)}
    (same : passed results = passed more) (places : List Nat)
    : (completed results places).length = (completed more places).length := by
  induction places with
  | nil => rfl
  | cons place rest ih =>
      have present : (resultAt results place).isSome = (resultAt more place).isSome := by
        rw [isSome_resultAt, isSome_resultAt, same]
      unfold resultAt at present
      unfold completed
      cases here : ((results.find? fun entry => entry.1 == place).map Prod.snd).join with
      | none =>
          cases there : ((more.find? fun entry => entry.1 == place).map Prod.snd).join with
          | none => rfl
          | some found => simp [here, there] at present
      | some found =>
          cases there : ((more.find? fun entry => entry.1 == place).map Prod.snd).join with
          | none => simp [here, there] at present
          | some given => simp [ih]

/-- Two scans cover as many callbacks, whatever each of them looks for. -/
theorem scanAll_abreast (workers : Nat) (schedule : Nat → List Nat) (records : List Record)
    : Abreast (fun left right => left.1.length = right.1.length)
        (scanAll host options workers schedule records)
        (scanAll host others workers schedule records) := by
  unfold scanAll
  split
  · exact scanInOrder_abreast host options others records
  · refine (runTasks_abreast host options others records _).bind fun left right same => ?_
    exact .pure (length_completed same _)

end Analysis

end ArkLifecycle
