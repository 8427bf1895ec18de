import ArkLifecycle.Fault

/-! Tasks that may fail and change a state, whatever the state is.

Changes of files and parts of a run are such tasks. What one of them does is its outcome: the value
that it gives or the fault that it fails with, and the state that it leaves.
-/

namespace ArkLifecycle.Effect

variable {σ α β : Type}

/-- (outcome task before) is what a task gives or fails with, and the state it leaves. -/
def outcome (task : ExceptT Fault (StateM σ) α) (before : σ) : Except Fault α × σ :=
  task.run before

@[simp]
theorem outcome_pure (value : α) (before : σ)
    : outcome (pure value) before = (.ok value, before) :=
  rfl

@[simp]
theorem outcome_lift (result : Except Fault α) (before : σ)
    : outcome (liftM result) before = (result, before) := by
  cases result <;> rfl

@[simp]
theorem outcome_get (before : σ)
    : outcome (get : ExceptT Fault (StateM σ) σ) before = (.ok before, before) :=
  rfl

@[simp]
theorem outcome_set (after before : σ)
    : outcome (set after : ExceptT Fault (StateM σ) PUnit) before = (.ok ⟨⟩, after) :=
  rfl

/-- A task after another one begins where the first one ends, if that succeeds. -/
theorem outcome_bind (task : ExceptT Fault (StateM σ) α)
    (next : α → ExceptT Fault (StateM σ) β) (before : σ)
    : outcome (task >>= next) before
      = match outcome task before with
        | (.ok value, after) => outcome (next value) after
        | (.error fault, after) => (.error fault, after) := by
  have both
      : outcome (task >>= next) before
        = ExceptT.bindCont next (outcome task before).1 (outcome task before).2 :=
    rfl
  rw [both]
  rcases outcome task before with ⟨fault | value, after⟩ <;> rfl

theorem outcome_bind_ok {task : ExceptT Fault (StateM σ) α}
    {next : α → ExceptT Fault (StateM σ) β} {before after : σ} {value : α}
    (done : outcome task before = (.ok value, after))
    : outcome (task >>= next) before = outcome (next value) after := by
  rw [outcome_bind, done]

theorem outcome_bind_error {task : ExceptT Fault (StateM σ) α}
    {next : α → ExceptT Fault (StateM σ) β} {before after : σ} {fault : Fault}
    (failed : outcome task before = (.error fault, after))
    : outcome (task >>= next) before = (.error fault, after) := by
  rw [outcome_bind, failed]

/-- A task after another one succeeds only if both do. -/
theorem outcome_bind_eq_ok {task : ExceptT Fault (StateM σ) α}
    {next : α → ExceptT Fault (StateM σ) β} {before after : σ} {result : β}
    (done : outcome (task >>= next) before = (.ok result, after))
    : ∃ value middle,
        outcome task before = (.ok value, middle)
        ∧ outcome (next value) middle = (.ok result, after) := by
  rw [outcome_bind] at done
  split at done
  · next value middle began => exact ⟨value, middle, began, done⟩
  · cases done

/-- A task that is tried leaves its state to whoever handles its fault. -/
theorem outcome_tryCatch (task : ExceptT Fault (StateM σ) α)
    (handle : Fault → ExceptT Fault (StateM σ) α) (before : σ)
    : outcome (tryCatch task handle) before
      = match outcome task before with
        | (.ok value, after) => (.ok value, after)
        | (.error fault, after) => outcome (handle fault) after := by
  change ExceptT.tryCatch task handle before = _
  simp only [ExceptT.tryCatch, ExceptT.mk, bind, StateT.bind, outcome, ExceptT.run]
  rcases task before with ⟨fault | value, after⟩ <;> rfl

-----------------------------------------------------------------------------------------
-- Tasks that keep a part of the state
-----------------------------------------------------------------------------------------

variable {τ : Type} {view : σ → τ}

/-- Whether it succeeds or not, the task leaves a part of the state as it was. -/
def Keeps (view : σ → τ) (task : ExceptT Fault (StateM σ) α) : Prop :=
  ∀ before, view (outcome task before).2 = view before

theorem Keeps.same {task : ExceptT Fault (StateM σ) α} {before after : σ} {result : Except Fault α}
    (keeps : Keeps view task) (done : outcome task before = (result, after))
    : view after = view before := by
  have kept := keeps before
  rwa [done] at kept

theorem Keeps.pure (value : α) : Keeps view (Pure.pure value : ExceptT Fault (StateM σ) α) :=
  fun _ => rfl

theorem Keeps.lift (result : Except Fault α)
    : Keeps view (liftM result : ExceptT Fault (StateM σ) α) :=
  fun before => by rw [outcome_lift]

theorem Keeps.get : Keeps view (MonadState.get : ExceptT Fault (StateM σ) σ) :=
  fun _ => rfl

theorem Keeps.bind {task : ExceptT Fault (StateM σ) α}
    {next : α → ExceptT Fault (StateM σ) β} (first : Keeps view task)
    (second : ∀ value, Keeps view (next value))
    : Keeps view (task >>= next) := by
  intro before
  rcases done : outcome task before with ⟨fault | value, middle⟩
  · rw [outcome_bind_error done]
    exact first.same done
  · rw [outcome_bind_ok done]
    exact (second value middle).trans (first.same done)

end ArkLifecycle.Effect
