import ArkLifecycle.Session
import Mathlib.Data.List.Forall2

/-! What a part of an analysis gives, and which questions it puts.

A task that only puts questions has one truthful result. It gives that result to every host that
denies none of its questions, and fails when one is denied; what it asks is logged either way.
-/

namespace ArkLifecycle

/-- A question and the questions that were put before it, the latest first. Of two equal questions
at most one has a given history, so this names a single call.
-/
structure Question where
  history : List Query
  query : Query

/-- (Host.denies host question) holds when the host denies that single call. -/
def Host.denies (host : Host) (question : Question) : Prop :=
  (host.deny question.history question.query).isSome

/-- The host denies no question, whatever happened before. -/
def Host.Obliging (host : Host) : Prop :=
  ∀ history query, host.deny history query = none

/-- The host refuses no event. -/
def Host.Accepting (host : Host) : Prop :=
  ∀ event, host.refuse event = none

/-- The host never says to stop. -/
def Host.Patient (host : Host) : Prop :=
  ∀ look, host.stop look = false

/-- (Host.obliging host) is the same host, except that it denies nothing. -/
def Host.obliging (host : Host) : Host :=
  { host with deny := fun _ _ => none }

theorem Host.obliging_denies_nothing (host : Host) : host.obliging.Obliging :=
  fun _ _ => rfl

theorem Host.willing_denies_nothing : Host.willing.Obliging :=
  fun _ _ => rfl

/-- No single call is denied by an obliging host. -/
theorem Host.Obliging.not_denies {host : Host} (obliging : host.Obliging) (question : Question)
    : ¬ host.denies question := by
  simp [Host.denies, obliging question.history question.query]

/-- (questionsOn history asked) gives the questions `asked`, the latest first, each with its own
history, when they were put after those of `history`.
-/
def questionsOn (history : List Query) : List Query → List Question
  | [] => []
  | query :: earlier => ⟨earlier ++ history, query⟩ :: questionsOn history earlier

/-- Questions put in two rounds: the later ones have the earlier ones in their histories. -/
theorem questionsOn_append (history later earlier : List Query)
    : questionsOn history (later ++ earlier)
      = questionsOn (earlier ++ history) later ++ questionsOn history earlier := by
  induction later with
  | nil => rfl
  | cons query rest ih => simp [questionsOn, ih]

/-- A question of one round extends the log before the round and is part of the log after it. -/
theorem mem_questionsOn {history asked : List Query} {question : Question}
    (member : question ∈ questionsOn history asked)
    : history <:+ question.history
      ∧ question.query :: question.history <:+ asked ++ history
      ∧ question.query ∈ asked := by
  induction asked with
  | nil => cases member
  | cons query earlier ih =>
      rcases List.mem_cons.mp member with same | older
      · subst same
        exact ⟨List.suffix_append _ _, List.suffix_rfl, by simp⟩
      · obtain ⟨after, before, asked⟩ := ih older
        exact ⟨after, before.trans (List.suffix_cons query _), List.mem_cons_of_mem query asked⟩

/-- Something that was done after a step succeeds only if the step did. -/
theorem bind_eq_ok {α β : Type} {step : Except Fault α} {next : α → Except Fault β} {result : β}
    (done : step >>= next = .ok result)
    : ∃ value, step = .ok value ∧ next value = .ok result := by
  cases step with
  | error fault => cases done
  | ok value => exact ⟨value, rfl, done⟩

/-- If all items are read, each result is that of its item. -/
theorem mapM_eq_ok {α β : Type} {read : α → Except Fault β} {items : List α} {results : List β}
    (done : items.mapM read = .ok results)
    : List.Forall₂ (fun item result => read item = .ok result) items results := by
  induction items generalizing results with
  | nil =>
      cases done
      exact .nil
  | cons item rest ih =>
      rw [List.mapM_cons] at done
      obtain ⟨result, first, done⟩ := bind_eq_ok done
      obtain ⟨others, later, done⟩ := bind_eq_ok done
      cases done
      exact .cons first (ih later)

/-- Whatever is written so that it can be read is read when all of it is written.
Witness: induction over the items.
-/
theorem mapM_map_eq_ok {α β γ : Type} {write : α → β} {read : β → Except Fault γ} {told : α → γ}
    {items : List α} (each : ∀ item ∈ items, read (write item) = .ok (told item))
    : (items.map write).mapM read = .ok (items.map told) := by
  induction items with
  | nil => rfl
  | cons item rest ih =>
      obtain ⟨first, others⟩ := List.forall_mem_cons.mp each
      rw [List.map_cons, List.mapM_cons, first, ih others]
      rfl

namespace Activity

variable {α β : Type}

-----------------------------------------------------------------------------------------
-- The outcome of a task in a session
-----------------------------------------------------------------------------------------

/-- (outcome task session) is what a task gives or fails with, and the session it leaves. -/
def outcome (task : Activity α) (session : Session) : Except Fault α × Session :=
  task.run session

@[simp]
theorem outcome_pure (value : α) (session : Session)
    : outcome (pure value) session = (.ok value, session) :=
  rfl

@[simp]
theorem outcome_lift (result : Except Fault α) (session : Session)
    : outcome (liftM result : Activity α) session = (result, session) := by
  cases result <;> rfl

/-- A task after another one runs in the session that the first one leaves, if that succeeds. -/
theorem outcome_bind (task : Activity α) (next : α → Activity β) (session : Session)
    : outcome (task >>= next) session
      = match outcome task session with
        | (.ok value, after) => outcome (next value) after
        | (.error fault, after) => (.error fault, after) := by
  have both
      : outcome (task >>= next) session
        = ExceptT.bindCont next (outcome task session).1 (outcome task session).2 :=
    rfl
  rw [both]
  rcases outcome task session with ⟨fault | value, after⟩ <;> rfl

theorem outcome_bind_ok {task : Activity α} {next : α → Activity β} {before after : Session}
    {value : α} (done : outcome task before = (.ok value, after))
    : outcome (task >>= next) before = outcome (next value) after := by
  rw [outcome_bind, done]

theorem outcome_bind_error {task : Activity α} {next : α → Activity β} {before after : Session}
    {fault : Fault} (failed : outcome task before = (.error fault, after))
    : outcome (task >>= next) before = (.error fault, after) := by
  rw [outcome_bind, failed]

/-- A task after another one succeeds only if both do. -/
theorem outcome_bind_eq_ok {task : Activity α} {next : α → Activity β} {before after : Session}
    {result : β}
    (done : outcome (task >>= next) before = (.ok result, after))
    : ∃ value middle,
        outcome task before = (.ok value, middle)
        ∧ outcome (next value) middle = (.ok result, after) := by
  rw [outcome_bind] at done
  split at done
  · next value middle began => exact ⟨value, middle, began, done⟩
  · cases done

/-- Mapping a task changes only what it gives. -/
theorem outcome_map (f : α → β) (task : Activity α) (session : Session)
    : outcome (f <$> task) session
      = ((outcome task session).1.map f, (outcome task session).2) := by
  rw [map_eq_pure_bind, outcome_bind]
  rcases outcome task session with ⟨_ | value, after⟩ <;> rfl

@[simp]
theorem outcome_attempt (task : Activity α) (session : Session)
    : outcome (attempt task) session = (.ok (outcome task session).1, (outcome task session).2) :=
  rfl

/-- A span does not change what the task inside of it gives. -/
theorem outcome_span {host : Host} {name : Text} {given : Json.Fields} {task : Activity α}
    {before after : Session} {result : Except Fault α}
    (done : outcome task (before.openSpan (.text name)) = (result, after))
    : outcome (span host name given task) before
      = (result, after.closeSpan before.openSpans (.text name)
          (Span.attributesOf host.context given)) := by
  have inside := congrArg (fun ended : Except Fault α × Session =>
    (ended.1, ended.2.closeSpan before.openSpans (.text name)
      (Span.attributesOf host.context given))) done
  exact inside

/-- A span gives what the task inside of it gives. -/
theorem outcome_span_eq_ok {host : Host} {name : Text} {given : Json.Fields} {task : Activity α}
    {before after : Session} {result : α}
    (done : outcome (span host name given task) before = (.ok result, after))
    : ∃ start middle, outcome task start = (.ok result, middle) := by
  cases inside : outcome task (before.openSpan (.text name)) with
  | mk given middle =>
      rw [outcome_span inside] at done
      cases done
      exact ⟨_, middle, inside⟩

/-- Every question is logged, and a denied one fails. -/
theorem outcome_ask (host : Host) (query : Query) (session : Session)
    : outcome (ask host query) session
      = (match host.deny session.queries query with
          | some fault => .error fault
          | none => .ok (),
        { session with queries := query :: session.queries }) := by
  change outcome (match host.deny session.queries query with
    | some fault => throw fault
    | none => pure ()) { session with queries := query :: session.queries } = _
  cases host.deny session.queries query <;> rfl

/-- A question that gives a value when it is not denied. -/
theorem outcome_asked (host : Host) (query : Query) (value : α) (before : Session)
    : outcome (do ask host query; return value) before
      = ((host.deny before.queries query).elim (.ok value) .error,
        { before with queries := query :: before.queries }) := by
  rw [outcome_bind, outcome_ask]
  cases host.deny before.queries query <;> rfl

@[simp]
theorem outcome_shouldStop (host : Host) (session : Session)
    : outcome (shouldStop host) session
      = (.ok (host.stop session.looks), { session with looks := session.looks + 1 }) :=
  rfl

@[simp]
theorem outcome_solve (host : Host) (call : SolverCall) (session : Session)
    : outcome (solve host call) session
      = (.ok (host.solve session.solved call),
        { session with solved := call :: session.solved }) :=
  rfl

theorem outcome_log {host : Host} (accepting : host.Accepting) (event : Event)
    (session : Session)
    : outcome (log host event) session = (.ok (), session.logEvent event) := by
  simp only [log, accepting event]
  rfl

/-- A task between two events that are accepted. -/
theorem outcome_between {host : Host} (accepting : host.Accepting) (first : Event)
    (last : α → Event) {task : Activity α} {before after : Session} {value : α}
    (done : outcome task (before.logEvent first) = (.ok value, after))
    : outcome
          (do
            log host first
            let value ← task
            log host (last value)
            return value)
          before
      = (.ok value, after.logEvent (last value)) := by
  rw [outcome_bind_ok (outcome_log accepting _ _), outcome_bind_ok done,
    outcome_bind_ok (outcome_log accepting _ _), outcome_pure]

-----------------------------------------------------------------------------------------
-- Tasks that only put questions
-----------------------------------------------------------------------------------------

/-- Between two sessions the questions `asked` were put, and it was not looked up whether to stop.
-/
structure Asked (before after : Session) (asked : List Query) : Prop where
  queries : after.queries = asked ++ before.queries
  looks : after.looks = before.looks

/-- Between two sessions some questions may have been put, and it was not looked up whether to stop.
-/
structure Extends (before after : Session) : Prop where
  queries : before.queries <:+ after.queries
  looks : after.looks = before.looks

theorem Extends.refl (session : Session) : Extends session session :=
  ⟨List.suffix_rfl, rfl⟩

theorem Extends.trans {first second third : Session} (earlier : Extends first second)
    (later : Extends second third)
    : Extends first third :=
  ⟨earlier.queries.trans later.queries, later.looks.trans earlier.looks⟩

theorem Asked.extends {before after : Session} {asked : List Query}
    (step : Asked before after asked)
    : Extends before after :=
  ⟨step.queries ▸ List.suffix_append asked before.queries, step.looks⟩

/-- The task puts only questions of which `about` holds, and `result` is its truthful result: it
gives `result`, or it fails because one of its questions was denied.
-/
def Answers (host : Host) (about : Query → Prop) (task : Activity α) (result : Except Fault α)
    : Prop :=
  ∀ before,
    ∃ asked,
      Asked before (outcome task before).2 asked
      ∧ (∀ query ∈ asked, about query)
      ∧ ((outcome task before).1 = result
        ∨ (∃ fault, (outcome task before).1 = .error fault)
          ∧ ∃ question ∈ questionsOn before.queries asked, host.denies question)

variable {host : Host} {about : Query → Prop}

/-- What needs no question is answered by itself. -/
theorem Answers.lift (result : Except Fault α)
    : Answers host about (liftM result : Activity α) result := by
  intro before
  rw [outcome_lift]
  exact ⟨[], ⟨rfl, rfl⟩, by simp, Or.inl rfl⟩

theorem Answers.pure (value : α) : Answers host about (Pure.pure value) (.ok value) :=
  fun _ => ⟨[], ⟨rfl, rfl⟩, by simp, Or.inl rfl⟩

/-- One question is answered unless it is denied. -/
theorem Answers.ask {query : Query} (concerned : about query)
    : Answers host about (Activity.ask host query) (.ok ()) := by
  intro before
  refine ⟨[query], ?_, by simpa using concerned, ?_⟩
  · rw [outcome_ask]
    exact ⟨rfl, rfl⟩
  · rw [outcome_ask]
    cases denied : host.deny before.queries query with
    | none => exact Or.inl rfl
    | some fault =>
        refine Or.inr ⟨⟨fault, rfl⟩, ⟨before.queries, query⟩, by simp [questionsOn], ?_⟩
        simp [Host.denies, denied]

/-- Truthful results compose like the tasks do.
Witness: the log of the second task stands on that of the first, so a denial in either is one
of the whole; after a denial in the first task the second one does not run.
-/
theorem Answers.bind {task : Activity α} {next : α → Activity β} {result : Except Fault α}
    {more : α → Except Fault β}
    (first : Answers host about task result)
    (second : ∀ value, result = .ok value → Answers host about (next value) (more value))
    : Answers host about (task >>= next) (result >>= more) := by
  intro before
  obtain ⟨asked, step, concerned, told⟩ := first before
  rcases done : outcome task before with ⟨given, middle⟩
  simp only [done] at step told
  rcases told with told | ⟨⟨fault, failed⟩, denied⟩
  · subst told
    cases given with
    | error fault =>
        rw [outcome_bind_error done]
        exact ⟨asked, step, concerned, Or.inl rfl⟩
    | ok value =>
        obtain ⟨later, rest, about, told⟩ := second value rfl middle
        rw [outcome_bind_ok done]
        refine ⟨later ++ asked, ⟨?_, rest.looks.trans step.looks⟩, ?_, ?_⟩
        · rw [rest.queries, step.queries, List.append_assoc]
        · intro query member
          rcases List.mem_append.mp member with member | member
          · exact about query member
          · exact concerned query member
        · refine told.imp_right (And.imp_right ?_)
          rintro ⟨question, member, denied⟩
          rw [step.queries] at member
          exact ⟨question, by rw [questionsOn_append]; exact List.mem_append_left _ member, denied⟩
  · subst failed
    rw [outcome_bind_error done]
    exact ⟨asked, step, concerned, Or.inr ⟨⟨fault, rfl⟩, denied⟩⟩

/-- A task after one whose truthful result is a value. -/
theorem Answers.bind_ok {task : Activity α} {next : α → Activity β} {value : α}
    {result : Except Fault β}
    (first : Answers host about task (.ok value))
    (second : Answers host about (next value) result)
    : Answers host about (task >>= next) result := by
  have whole : Answers host about (task >>= next) (.ok value >>= fun _ => result) := by
    refine first.bind ?_
    rintro _ ⟨⟩
    exact second
  exact whole

/-- A span has the truthful result of the task inside of it. -/
theorem Answers.span {task : Activity α} {result : Except Fault α} (name : Text)
    (given : Json.Fields) (inside : Answers host about task result)
    : Answers host about (Activity.span host name given task) result := by
  intro before
  obtain ⟨asked, step, concerned, told⟩ := inside (before.openSpan (.text name))
  exact ⟨asked, ⟨step.queries, step.looks⟩, concerned, told⟩

/-- An obliging host is told the truthful result, in every session. -/
theorem Answers.obliged {task : Activity α} {result : Except Fault α}
    (told : Answers host about task result) (obliging : host.Obliging) (before : Session)
    : ∃ after asked, outcome task before = (result, after) ∧ Asked before after asked := by
  obtain ⟨asked, step, -, same | ⟨-, question, -, denied⟩⟩ := told before
  · exact ⟨_, asked, Prod.ext same rfl, step⟩
  · exact absurd denied (obliging.not_denies question)

/-- Methods, markers and bodies are told truthfully or not at all. -/
theorem Answers.methodsOf {decl : ClassDecl} (concerned : about (.methods decl))
    : Answers host about (Activity.methodsOf host decl) (.ok decl.methods) :=
  (Answers.ask concerned).bind_ok (Answers.pure decl.methods)

theorem Answers.carries {decl : ClassDecl} {marker : Json}
    (concerned : about (.marker decl marker))
    : Answers host about (Activity.carries host decl marker) (.ok (decl.carries marker)) :=
  (Answers.ask concerned).bind_ok (Answers.pure _)

theorem Answers.bodyOf {method : Method} (concerned : about (.body method))
    : Answers host about (Activity.bodyOf host method) (.ok method.cfg) :=
  (Answers.ask concerned).bind_ok (Answers.pure method.cfg)

-----------------------------------------------------------------------------------------
-- Tasks that do not look up whether to stop
-----------------------------------------------------------------------------------------

/-- The task may put questions, but it does not look up whether to stop. -/
def Quiet (task : Activity α) : Prop :=
  ∀ before, Extends before (outcome task before).2

theorem Answers.quiet {task : Activity α} {result : Except Fault α}
    (told : Answers host about task result)
    : Quiet task := by
  intro before
  obtain ⟨asked, step, -⟩ := told before
  exact step.extends

theorem Quiet.pure (value : α) : Quiet (Pure.pure value) :=
  fun before => .refl before

theorem Quiet.lift (result : Except Fault α) : Quiet (liftM result : Activity α) := by
  intro before
  rw [outcome_lift]
  exact .refl before

/-- Quiet tasks compose. Witness: the second one runs only if the first one succeeds. -/
theorem Quiet.bind {task : Activity α} {next : α → Activity β} (first : Quiet task)
    (second : ∀ value, Quiet (next value))
    : Quiet (task >>= next) := by
  intro before
  have begun := first before
  rcases done : outcome task before with ⟨fault | value, middle⟩
  · rw [done] at begun
    rw [outcome_bind_error done]
    exact begun
  · rw [done] at begun
    rw [outcome_bind_ok done]
    exact begun.trans (second value middle)

theorem Quiet.attempt {task : Activity α} (inside : Quiet task)
    : Quiet (Activity.attempt task) :=
  inside

theorem Quiet.log (host : Host) (event : Event) : Quiet (Activity.log host event) := by
  intro before
  unfold Activity.log
  cases host.refuse event with
  | none => exact ⟨List.suffix_rfl, rfl⟩
  | some fault => exact .refl before

theorem Quiet.span {task : Activity α} (host : Host) (name : Text) (given : Json.Fields)
    (inside : Quiet task)
    : Quiet (Activity.span host name given task) := by
  intro before
  have within := inside (before.openSpan (.text name))
  exact ⟨within.queries, within.looks⟩

end Activity

end ArkLifecycle
