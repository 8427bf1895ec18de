import ArkLifecycle.Proofs.Files.Growth
import ArkLifecycle.Proofs.Files.Names
import ArkLifecycle.Run

/-! What the steps of a run do to its files and to what it remembers of the analysis.

A part of an analysis changes files only by what it logs, and a change of files changes nothing
else. So all files but the log come from the steps that write results.
-/

namespace ArkLifecycle

open Effect FileTree

-----------------------------------------------------------------------------------------
-- The log
-----------------------------------------------------------------------------------------

namespace EventLog

/-- (places log) is where the file of a log stands, if it has one. -/
def places (log : EventLog) : Set (List Text) :=
  { place | ∃ path, log.path = some path ∧ place = location path }

/-- An event that is written leaves the file of the log. -/
theorem write_leaves (log : EventLog) (timestamp : Text) (event : Event)
    : Leaves id log.places log.path.toList (log.write timestamp event) := by
  unfold write
  split
  · next path has =>
      refine FileEdit.change_leaves fun before next done => ?_
      obtain ⟨line, -, appended⟩ := bind_eq_ok done
      rw [append_eq_write] at appended
      refine ⟨(grows_of_write appended).mono ?_, fun one member => ?_⟩
      · rintro _ rfl
        exact ⟨path, has, rfl⟩
      · rw [has] at member
        rw [List.mem_singleton.mp member]
        exact ⟨_, read_of_write appended⟩
  · next none =>
      rw [none]
      exact .pure ()

theorem writeAll_singleton (log : EventLog) (timestamp : Text) (event : Event)
    : log.writeAll timestamp [event] = log.write timestamp event :=
  bind_pure_unit

/-- Events that are written add the file of the log at most. Witness: induction over the events. -/
theorem writeAll_leaves (log : EventLog) (timestamp : Text) (events : List Event)
    : Leaves id log.places [] (log.writeAll timestamp events) := by
  induction events with
  | nil => exact .pure ()
  | cons event rest ih =>
      exact ((write_leaves log timestamp event).mono (subset_refl _) (List.nil_subset _)).bind
        fun _ => ih

end EventLog

-----------------------------------------------------------------------------------------
-- Steps of a run
-----------------------------------------------------------------------------------------

namespace RunStep

variable {α : Type} {places : Set (List Text)} {made : List Path}

theorem outcome_edit (change : FileEdit α) (before : RunState)
    : outcome (edit change) before
      = ((outcome change before.tree).1,
        { before with tree := (outcome change before.tree).2 }) :=
  rfl

/-- (logged activity before) are the events that a part of an analysis adds to the log. -/
def logged (activity : Activity α) (before : Session) : List Event :=
  (activity.outcome before).2.events.drop before.events.length

theorem outcome_perform (plan : RunPlan) (activity : Activity α) (before : RunState)
    : outcome (perform plan activity) before
      = let written := outcome
          (plan.log.writeAll plan.stamp.timestamp (logged activity before.session)) before.tree
        (written.1 >>= fun _ => (activity.outcome before.session).1,
          { before with session := (activity.outcome before.session).2, tree := written.2 }) :=
  rfl

/-- A span ends as the step inside of it ends, but for the trace. -/
theorem span_ended {host : Host} {name : Text} {given : Json.Fields} {step : RunStep α}
    {before after : RunState} {result : Except Fault α}
    (done : outcome (span host name given step) before = (result, after))
    : ∃ ended,
        outcome step { before with session := before.session.openSpan (.text name) }
          = (result, ended)
        ∧ after
          = { ended with
              session := ended.session.closeSpan before.session.openSpans (.text name)
                (Span.attributesOf host.context given) } := by
  cases done
  exact ⟨_, rfl, rfl⟩

theorem outcome_attempt (step : RunStep α) (before : RunState)
    : outcome (attempt step) before = (.ok (outcome step before).1, (outcome step before).2) :=
  rfl

theorem perform_leaves (plan : RunPlan) (activity : Activity α)
    : Leaves RunState.tree plan.log.places [] (perform plan activity) := by
  intro before
  rw [outcome_perform]
  exact ⟨(plan.log.writeAll_leaves _ _ before.tree).1, by simp⟩

/-- An event that the host refuses is neither logged nor written. -/
theorem outcome_log_refused {plan : RunPlan} {event : Event} {fault : Fault}
    (refused : plan.host.refuse event = some fault) (before : RunState)
    : outcome (log plan event) before = (.error fault, before) := by
  have given : (Activity.log plan.host event).outcome before.session
      = (.error fault, before.session) := by
    rw [Activity.log, refused]
    rfl
  rw [log, outcome_perform, logged, given, List.drop_length]
  rfl

/-- An event that the host accepts is logged, and written. -/
theorem outcome_log_accepted {plan : RunPlan} {event : Event}
    (accepted : plan.host.refuse event = none) (before : RunState)
    : outcome (log plan event) before
      = let written := outcome (plan.log.write plan.stamp.timestamp event) before.tree
        (written.1,
          { before with session := before.session.logEvent event, tree := written.2 }) := by
  have given : (Activity.log plan.host event).outcome before.session
      = (.ok (), before.session.logEvent event) := by
    rw [Activity.log, accepted]
    rfl
  have added : (before.session.logEvent event).events.drop before.session.events.length = [event] :=
    List.drop_left
  rw [log, outcome_perform, logged, given, added, EventLog.writeAll_singleton]
  rcases outcome (plan.log.write plan.stamp.timestamp event) before.tree with ⟨_ | _, tree⟩ <;> rfl

/-- An event that is logged leaves the file of the log. -/
theorem log_leaves (plan : RunPlan) (event : Event)
    : Leaves RunState.tree plan.log.places plan.log.path.toList (log plan event) := by
  intro before
  cases decided : plan.host.refuse event with
  | some fault =>
      rw [outcome_log_refused decided]
      exact ⟨.refl _ _, fun _ failed => nomatch failed⟩
  | none =>
      rw [outcome_log_accepted decided]
      exact plan.log.write_leaves plan.stamp.timestamp event before.tree

theorem span_leaves {step : RunStep α} (host : Host) (name : Text) (given : Json.Fields)
    (leaves : Leaves RunState.tree places made step)
    : Leaves RunState.tree places made (span host name given step) :=
  fun before =>
    leaves { before with session := before.session.openSpan (.text name) }

theorem log_keeps (plan : RunPlan) (event : Event) : Keeps RunState.analysis (log plan event) :=
  fun _ => rfl

theorem span_keeps {step : RunStep α} (host : Host) (name : Text) (given : Json.Fields)
    (keeps : Keeps RunState.analysis step)
    : Keeps RunState.analysis (span host name given step) :=
  fun before => keeps { before with session := before.session.openSpan (.text name) }

-----------------------------------------------------------------------------------------
-- Steps that only change files
-----------------------------------------------------------------------------------------

/-- (rest state) is all of a run's state but its files. -/
def rest (state : RunState) : Session × Option Analysis :=
  (state.session, state.analysis)

/-- The step changes nothing but files, adds them at the given places at most, and leaves those at
the paths `made` when it succeeds.
-/
structure Edits (places : Set (List Text)) (made : List Path) (step : RunStep α) : Prop where
  leaves : Leaves RunState.tree places made step
  keeps : Keeps rest step

theorem Edits.get : Edits places [] (MonadState.get : RunStep RunState) :=
  ⟨.still fun _ => rfl, .get⟩

theorem Edits.pure (value : α) : Edits places [] (Pure.pure value : RunStep α) :=
  ⟨.pure value, .pure value⟩

theorem Edits.lift (result : Except Fault α) : Edits places [] (liftM result : RunStep α) :=
  ⟨.lift result, .lift result⟩

theorem Edits.bind {β : Type} {more : List Path} {step : RunStep α} {next : α → RunStep β}
    (first : Edits places made step) (second : ∀ value, Edits places more (next value))
    : Edits places (made ++ more) (step >>= next) :=
  ⟨first.leaves.bind fun value => (second value).leaves,
    first.keeps.bind fun value => (second value).keeps⟩

theorem Edits.mono {wider : Set (List Text)} {fewer : List Path} {step : RunStep α}
    (edits : Edits places made step) (within : places ⊆ wider) (subset : fewer ⊆ made)
    : Edits wider fewer step :=
  ⟨edits.leaves.mono within subset, edits.keeps⟩

/-- Changes of files leave in a run what they leave, and nothing else. -/
theorem edit_edits {change : FileEdit α} (leaves : Leaves id places made change)
    : Edits places made (edit change) :=
  ⟨fun before => leaves before.tree, fun _ => rfl⟩

end RunStep

end ArkLifecycle
