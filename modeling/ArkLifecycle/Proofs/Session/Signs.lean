import ArkLifecycle.Proofs.Session.Effect
import ArkLifecycle.Session

/-! Which events a task logs, and in which order.

Of an event only its type counts here, and the stage and the status that it names. What is said of
one task and of the one after it adds up to what is said of both, whatever state keeps the log.
-/

namespace ArkLifecycle

/-- What an event shows of the course that things take: its type, and the stage and the status that
it names, if it does.
-/
structure Sign where
  type : Json
  stage : Option Json
  status : Option Json

/-- (Event.sign event) is what an event shows. -/
def Event.sign (event : Event) : Sign where
  type := event.type
  stage := Json.lookup event.fields (.text "stage")
  status := Json.lookup event.fields (.text "status")

namespace Sign

/-- (opens name) is shown when a stage begins. -/
def opens (name : Text) : Sign :=
  ⟨.text "stage.start", some (.text name), none⟩

/-- (closes name status) is shown when a stage ends. -/
def closes (name : Text) (status : Json) : Sign :=
  ⟨.text "stage.end", some (.text name), some status⟩

/-- (ofStage name status) is shown by a whole stage. -/
def ofStage (name : Text) (status : Json) : List Sign :=
  [opens name, closes name status]

end Sign

-----------------------------------------------------------------------------------------
-- Keeping track of events
-----------------------------------------------------------------------------------------

/-- A way to tell which events were logged between two states, the first of which was ready for it.
-/
structure Tracking (σ : Type) where
  ready : σ → Prop
  told : σ → List Event → σ → Prop
  none : ∀ state, told state [] state
  append
    : ∀ {first second third events more},
        told first events second → told second more third → told first (events ++ more) third

namespace Effect

variable {σ α β : Type} {track : Tracking σ}

/-- From every state that is ready the task comes to one that is ready, and `post` holds of its
result and of what the events show that it logged.
-/
def Tells (track : Tracking σ) (task : ExceptT Fault (StateM σ) α)
    (post : Except Fault α → List Sign → Prop)
    : Prop :=
  ∀ before,
    track.ready before
    → track.ready (outcome task before).2
      ∧ ∃ events,
          track.told before events (outcome task before).2
          ∧ post (outcome task before).1 (events.map Event.sign)

/-- (Logged sign) is what a task tells that logs one event, or fails before. -/
def Logged (sign : Sign) (result : Except Fault α) (signs : List Sign) : Prop :=
  match result with
  | .ok _ => signs = [sign]
  | .error _ => signs = []

/-- (Staged name status) is what a stage tells: both of its ends, or at most the first one. -/
def Staged (name : Text) (status : α → Json) (result : Except Fault α) (signs : List Sign)
    : Prop :=
  match result with
  | .ok value => signs = Sign.ofStage name (status value)
  | .error _ => signs <+: [Sign.opens name]

/-- A stage that breaks off has been opened, or not even that. -/
theorem Staged.broken {name : Text} {status : α → Json} {fault : Fault} {signs : List Sign}
    (staged : Staged name status (.error fault) signs)
    : signs = [] ∨ signs = [Sign.opens name] := by
  have within : signs <+: [Sign.opens name] := staged
  rcases List.prefix_cons_iff.mp within with none | ⟨more, whole, rest⟩
  · exact .inl none
  · rw [List.prefix_nil.mp rest] at whole
    exact .inr whole

theorem Tells.pure {post : Except Fault α → List Sign → Prop} {value : α}
    (holds : post (.ok value) [])
    : Tells track (Pure.pure value) post :=
  fun before ready => ⟨ready, [], track.none before, holds⟩

theorem Tells.lift {post : Except Fault α → List Sign → Prop} {result : Except Fault α}
    (holds : post result [])
    : Tells track (liftM result) post := by
  intro before ready
  rw [outcome_lift]
  exact ⟨ready, [], track.none before, holds⟩

/-- One task after the other tells what the first one tells and then what the second one tells. -/
theorem Tells.bind {task : ExceptT Fault (StateM σ) α}
    {next : α → ExceptT Fault (StateM σ) β} {first : Except Fault α → List Sign → Prop}
    {post : Except Fault β → List Sign → Prop} (tells : Tells track task first)
    (broken : ∀ fault signs, first (.error fault) signs → post (.error fault) signs)
    (rest
      : ∀ value signs,
          first (.ok value) signs
          → Tells track (next value) fun result more => post result (signs ++ more))
    : Tells track (task >>= next) post := by
  intro before ready
  obtain ⟨still, events, told, holds⟩ := tells before ready
  rcases done : outcome task before with ⟨fault | value, middle⟩
  · rw [outcome_bind_error done]
    rw [done] at still told holds
    exact ⟨still, events, told, broken fault _ holds⟩
  · rw [outcome_bind_ok done]
    rw [done] at still told holds
    obtain ⟨ended, more, later, holds⟩ := rest value _ holds middle still
    exact ⟨ended, events ++ more, track.append told later, by rwa [List.map_append]⟩

/-- What is made of the value that a silent task gives is not told either. -/
theorem Tells.map {task : ExceptT Fault (StateM σ) α} (f : α → β)
    (silent : Tells track task fun _ signs => signs = [])
    : Tells track (f <$> task) fun _ signs => signs = [] := by
  rw [map_eq_pure_bind]
  refine silent.bind (fun _ _ none => none) ?_
  rintro value _ rfl
  exact .pure rfl

/-- Two events with a silent task between them are a stage. -/
theorem Tells.stage {name : Text} {status : α → Json} {first : ExceptT Fault (StateM σ) Unit}
    {task : ExceptT Fault (StateM σ) α} {last : α → ExceptT Fault (StateM σ) Unit}
    (begins : Tells track first (Logged (.opens name)))
    (silent : Tells track task fun _ signs => signs = [])
    (ends : ∀ value, Tells track (last value) (Logged (.closes name (status value))))
    : Tells track
        (do
          first
          let value ← task
          last value
          return value)
        (Staged name status) := by
  refine begins.bind ?_ ?_
  · rintro fault _ rfl
    exact List.nil_prefix
  rintro ⟨⟩ _ rfl
  refine silent.bind ?_ ?_
  · rintro fault _ rfl
    exact List.prefix_refl _
  rintro value _ rfl
  refine (ends value).bind ?_ ?_
  · rintro fault _ rfl
    exact List.prefix_refl _
  rintro ⟨⟩ _ rfl
  exact .pure rfl

end Effect

end ArkLifecycle
