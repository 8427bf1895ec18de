import ArkLifecycle.EventLog.Request
import ArkLifecycle.Proofs.Json.Fields

/-! Which requests are understood, and as which events.

The arguments of an operation are taken one after the other: each from the values that are given in
order while there are some, or else from the fields. A request is understood if all of its values
are taken that way, and no field has the name of an argument that has a value already.
-/

namespace ArkLifecycle

-----------------------------------------------------------------------------------------
-- Arguments
-----------------------------------------------------------------------------------------

namespace Operation

/-- No field has this name. -/
def IsFree (name : Text) (fields : Json.Fields) : Prop :=
  ∀ field ∈ fields, field.1 ≠ .text name

instance (name : Text) (fields : Json.Fields) : Decidable (IsFree name fields) :=
  inferInstanceAs (Decidable (∀ field ∈ fields, _))

/-- How an argument is taken, and what is left of the values and of the fields. -/
inductive Takes (name : Text)
  : List Json → Json.Fields → Option Json → List Json → Json.Fields → Prop
  | inOrder {value : Json} {given : List Json} {named : Json.Fields} (free : IsFree name named)
    : Takes name (value :: given) named (some value) given named
  | byName {value : Json} {left right : Json.Fields} (free : IsFree name (left ++ right))
    : Takes name [] (left ++ (.text name, value) :: right) (some value) [] (left ++ right)
  | absent {named : Json.Fields} (free : IsFree name named) : Takes name [] named none [] named

/-- Which values the arguments of an operation take, when no value is left in order. The fields that
are left belong to nobody.
-/
inductive Settles : List Json → Json.Fields → List (Text × Option Json) → Json.Fields → Prop
  | nil {named : Json.Fields} : Settles [] named [] named
  | cons {name : Text} {given more : List Json} {named others rest : Json.Fields}
    {value : Option Json} {values : List (Text × Option Json)}
    (first : Takes name given named value more others) (later : Settles more others values rest)
    : Settles given named ((name, value) :: values) rest

variable {name : Text} {given more : List Json} {named others rest : Json.Fields}
  {value : Option Json} {values : List (Text × Option Json)}

theorem IsFree.lookup_eq_none (free : IsFree name named)
    : Json.lookup named (.text name) = none := by
  rw [Json.lookup, Option.map_eq_none_iff, List.find?_eq_none]
  exact fun field member same => free field member ((Scalar.same_text_iff _ _).mp same)

theorem IsFree.cons {other : Text} (unlike : other ≠ name) (free : IsFree name named) (value : Json)
    : IsFree name ((.text other, value) :: named) := by
  rw [IsFree, List.forall_mem_cons]
  exact ⟨fun same => unlike (Scalar.text.inj same), free⟩

/-- Where fields have different names, no other field has the name of one of them. -/
theorem isFree_of_apart {value : Json} {left right : Json.Fields}
    (apart : Json.Apart (left ++ (.text name, value) :: right))
    : IsFree name (left ++ right) := by
  obtain ⟨-, after, before⟩ := List.pairwise_append.mp apart
  intro field listed same
  have unlike : Name.same (Scalar.text name) field.1 = false := by
    rcases List.mem_append.mp listed with earlier | later
    · rw [Json.same_comm]
      exact before field earlier _ List.mem_cons_self
    · exact List.rel_of_pairwise_cons after later
  rw [same] at unlike
  cases (Scalar.same_refl _).symm.trans unlike

/-- A field among others without its name is found by its name, and hides no other one. -/
theorem IsFree.lookup_eq {left right : Json.Fields} (free : IsFree name (left ++ right))
    (value : Json) (other : Scalar)
    : Json.lookup (left ++ (.text name, value) :: right) other
      = if other = .text name then some value else Json.lookup (left ++ right) other := by
  have here : IsFree name left := fun field member => free field (List.mem_append_left _ member)
  rw [Json.lookup_append, Json.lookup_append, Json.lookup_cons]
  simp only [Json.same_text_iff]
  split
  · next same => rw [same, here.lookup_eq_none, Option.none_or]
  · rfl

theorem Takes.free (takes : Takes name given named value more others) : IsFree name others := by
  cases takes with
  | inOrder free | byName free | absent free => exact free

/-- What is left of the fields are some of them in order. -/
theorem Takes.sublist (takes : Takes name given named value more others)
    : others.Sublist named := by
  cases takes with
  | inOrder | absent => exact .refl _
  | byName => exact (List.Sublist.refl _).append (List.sublist_cons_self _ _)

theorem Settles.sublist (settles : Settles given named values rest) : rest.Sublist named := by
  induction settles with
  | nil => exact .refl _
  | cons first _ ih => exact ih.trans first.sublist

/-- No field that is left has the name of an argument. Witness: induction over the arguments. -/
theorem Settles.free (settles : Settles given named values rest)
    : ∀ taken ∈ values, IsFree taken.1 rest := by
  induction settles with
  | nil => simp
  | cons first later ih =>
      rw [List.forall_mem_cons]
      exact ⟨fun field member => first.free field (later.sublist.subset member), ih⟩

/-- There are at most as many values as arguments. -/
theorem Settles.length_le (settles : Settles given named values rest)
    : given.length ≤ values.length := by
  induction settles with
  | nil => exact Nat.le_refl 0
  | cons first later ih =>
      cases first with
      | inOrder => exact Nat.succ_le_succ ih
      | byName | absent => exact Nat.zero_le _

/-- (ordered values given) are the values in order with the names of their arguments. -/
def ordered (values : List (Text × Option Json)) (given : List Json) : Json.Fields :=
  (values.map fun taken => Scalar.text taken.1).zip given

theorem ordered_nil (values : List (Text × Option Json)) : ordered values [] = [] :=
  List.zip_nil_right

theorem lookup_ordered_cons (name : Text) (value : Json) (values : List (Text × Option Json))
    (given : List Json) (other : Scalar)
    : Json.lookup (ordered ((name, some value) :: values) (value :: given)) other
      = if other = .text name then some value else Json.lookup (ordered values given) other := by
  rw [ordered, List.map_cons, List.zip_cons_cons, Json.lookup_cons]
  simp only [Json.same_text_iff]
  rfl

/-- No field has the name of an argument that is given in order. Witness: induction over the
arguments.
-/
theorem Settles.once (settles : Settles given named values rest)
    : ∀ field ∈ named, Json.lookup (ordered values given) field.1 = none := by
  induction settles with
  | nil => exact fun _ _ => rfl
  | cons first later ih =>
      intro field member
      cases first with
      | byName | absent => rfl
      | inOrder free =>
          rw [lookup_ordered_cons, if_neg (free field member)]
          exact ih field member

/-- (isTaken values name) holds of the names of arguments. -/
def isTaken (values : List (Text × Option Json)) (name : Scalar) : Bool :=
  values.any fun taken => name.same (.text taken.1)

theorem isTaken_cons_of_ne {name : Scalar} {taken : Text × Option Json}
    (other : name ≠ .text taken.1)
    : isTaken (taken :: values) name = isTaken values name := by
  have unlike : name.same (.text taken.1) = false :=
    Bool.eq_false_iff.mpr fun same => other ((Scalar.same_text_iff _ _).mp same)
  rw [isTaken, List.any_cons, unlike, Bool.false_or, isTaken]

/-- The fields that are left are those without the name of an argument. Witness: induction over the
arguments.
-/
theorem Settles.rest_eq (settles : Settles given named values rest)
    : rest = named.filter fun field => !isTaken values field.1 := by
  induction settles with
  | nil => simp [isTaken]
  | @cons name given more named others rest value values first later ih =>
      have kept {fields : Json.Fields} (free : IsFree name fields)
          : (fields.filter fun field => !isTaken ((name, value) :: values) field.1)
            = fields.filter fun field => !isTaken values field.1 :=
        List.filter_congr fun field member => by rw [isTaken_cons_of_ne (free field member)]
      rw [ih]
      cases first with
      | inOrder free | absent free => exact (kept free).symm
      | @byName value left right free =>
          have taken : (!isTaken ((name, some value) :: values) (.text name)) = false := by
            simp [isTaken, Scalar.same_refl]
          rw [← kept free, List.filter_append, List.filter_append,
            List.filter_cons_of_neg (by simp [taken])]

/-- Every argument has the value that it takes, in order or by name. Witness: induction over the
arguments.
-/
theorem Settles.lookup_eq (settles : Settles given named values rest)
    (apart : (values.map Prod.fst).Nodup)
    : ∀ taken ∈ values,
        (Json.lookup (ordered values given) (.text taken.1)).or
            (Json.lookup named (.text taken.1))
          = taken.2 := by
  induction settles with
  | nil => simp
  | @cons name given more named others rest value values first later ih =>
      obtain ⟨fresh, others⟩ := List.nodup_cons.mp apart
      have unlike {taken : Text × Option Json} (member : taken ∈ values)
          : Scalar.text taken.1 ≠ .text name :=
        fun same => fresh (List.mem_map.mpr ⟨taken, member, Scalar.text.inj same⟩)
      have known := ih others
      rw [List.forall_mem_cons]
      cases first with
      | inOrder free =>
          refine ⟨?_, fun taken member => ?_⟩
          · rw [lookup_ordered_cons, if_pos rfl]
            rfl
          · rw [lookup_ordered_cons, if_neg (unlike member)]
            exact known taken member
      | byName free =>
          rw [ordered_nil] at known ⊢
          refine ⟨?_, fun taken member => ?_⟩
          · rw [free.lookup_eq, if_pos rfl]
            rfl
          · rw [free.lookup_eq, if_neg (unlike member)]
            exact known taken member
      | absent free =>
          rw [ordered_nil] at known ⊢
          refine ⟨?_, known⟩
          rw [free.lookup_eq_none]
          rfl

/-- An argument has its value among the values in order and the fields with names of arguments. -/
theorem Settles.lookup_bound (settles : Settles given named values rest)
    (apart : (values.map Prod.fst).Nodup)
    : ∀ taken ∈ values,
        Json.lookup (ordered values given ++ named.filter fun field => isTaken values field.1)
            (.text taken.1)
          = taken.2 := by
  intro taken member
  have found
      : Json.lookup (named.filter fun field => isTaken values field.1) (.text taken.1)
        = Json.lookup named (.text taken.1) := by
    have asked {field : Scalar × Json} (same : Name.same field.1 (.text taken.1) = true)
        : isTaken values field.1 = true :=
      List.any_eq_true.mpr ⟨taken, member, same⟩
    have tests
        : (fun field : Scalar × Json =>
            isTaken values field.1 && Name.same field.1 (.text taken.1))
          = fun field => Name.same field.1 (.text taken.1) :=
      funext fun field => Bool.and_eq_right_iff_imp.mpr asked
    rw [Json.lookup, Json.lookup, List.find?_filter]
    simp only [Bool.decide_and, Bool.decide_eq_true, tests]
  rw [Json.lookup_append, found]
  exact settles.lookup_eq apart taken member

variable {operation : Operation}

theorem inOrder_eq_ordered (all : values.map Prod.fst = operation.parameters) (given : List Json)
    : operation.inOrder given = ordered values given := by
  rw [inOrder, ← all, List.map_map]
  rfl

theorem takes_eq_isTaken (all : values.map Prod.fst = operation.parameters)
    : operation.takes = isTaken values := by
  funext name
  rw [Operation.takes, ← all, List.any_map]
  rfl

/-- Arguments that are taken with nothing left are understood, if all that are needed have a value.
-/
theorem Settles.bind_eq_ok (settles : Settles given named values rest) (operation : Operation)
    (all : values.map Prod.fst = operation.parameters) (apart : operation.parameters.Nodup)
    (needed : ∀ taken ∈ values, taken.1 ∈ operation.required → taken.2 ≠ none)
    : ∃ arguments,
        operation.bind given named = .ok (arguments, rest)
        ∧ ∀ taken ∈ values, Json.lookup arguments (.text taken.1) = taken.2 := by
  have found := settles.lookup_bound (all ▸ apart)
  refine ⟨ordered values given ++ named.filter fun field => isTaken values field.1, ?_, found⟩
  have once : (named.find? fun field => (Json.lookup (ordered values given) field.1).isSome)
      = none := by
    rw [List.find?_eq_none]
    intro field member
    rw [settles.once field member]
    simp
  have few : ¬operation.parameters.length < given.length := by
    rw [← all, List.length_map, Nat.not_lt]
    exact settles.length_le
  have complete
      : (operation.required.find? fun name =>
          (Json.lookup (ordered values given
            ++ named.filter fun field => isTaken values field.1) (.text name)).isNone)
        = none := by
    rw [List.find?_eq_none]
    intro name member
    have parameter : name ∈ values.map Prod.fst := by
      rw [all]
      exact List.mem_append_left _ member
    obtain ⟨taken, listed, rfl⟩ := List.mem_map.mp parameter
    rw [found taken listed, Option.isNone_iff_eq_none]
    exact needed taken listed member
  unfold bind
  simp only [inOrder_eq_ordered all, takes_eq_isTaken all, once, if_neg few, complete]
  rw [settles.rest_eq]

/-- The arguments with values in order are the first ones. Witness: induction over the arguments. -/
theorem isSome_lookup_zip_iff {parameters : List Text} {name : Scalar}
    : (Json.lookup ((parameters.map Scalar.text).zip given) name).isSome = true
      ↔ ∃ parameter ∈ parameters.take given.length, name = .text parameter := by
  induction parameters generalizing given with
  | nil => simp [Json.lookup]
  | cons parameter more ih =>
      cases given with
      | nil => simp [Json.lookup]
      | cons value others =>
          rw [List.map_cons, List.zip_cons_cons, Json.lookup_cons, List.length_cons,
            List.take_succ_cons]
          simp only [Json.same_text_iff, List.exists_mem_cons_iff]
          split
          · next same => simp [same]
          · next other => simp [other, ih]

/-- What is bound has no field with the name of an argument that is given in order, not too many
values, and all values that are needed.
-/
theorem of_bind_eq_ok {arguments : Json.Fields}
    (bound : operation.bind given named = .ok (arguments, rest))
    : (∀ name ∈ operation.parameters.take given.length, IsFree name named)
      ∧ given.length ≤ operation.parameters.length
      ∧ arguments
        = operation.inOrder given ++ named.filter (fun field => operation.takes field.1)
      ∧ ∀ name ∈ operation.required, Json.lookup arguments (.text name) ≠ none := by
  dsimp only [bind] at bound
  split at bound
  · cases bound
  · next once =>
      split at bound
      · cases bound
      · next few =>
          split at bound
          · cases bound
          · next complete =>
              cases bound
              refine ⟨fun name member field listed same => ?_, Nat.le_of_not_lt few, rfl, ?_⟩
              · have known : (Json.lookup (operation.inOrder given) field.1).isSome = true :=
                  isSome_lookup_zip_iff.mpr ⟨name, member, same⟩
                have some
                    : (named.find? fun field =>
                        (Json.lookup (operation.inOrder given) field.1).isSome).isSome = true :=
                  List.find?_isSome.mpr ⟨field, listed, known⟩
                obtain ⟨⟨title, value⟩, found⟩ := Option.isSome_iff_exists.mp some
                have other := List.find?_some found
                obtain ⟨parameter, -, rfl⟩ := isSome_lookup_zip_iff.mp other
                exact once parameter value found
              · intro name member none
                have missing := List.find?_eq_none.mp complete name member
                simp [none] at missing

/-- Arguments can be taken, where no field has the name of one that is given in order. Witness:
induction over the arguments.
-/
theorem exists_settles {parameters : List Text} (apart : Json.Apart named)
    (few : given.length ≤ parameters.length)
    (once : ∀ name ∈ parameters.take given.length, IsFree name named)
    : ∃ values rest, values.map Prod.fst = parameters ∧ Settles given named values rest := by
  induction parameters generalizing given named with
  | nil =>
      obtain rfl := List.length_eq_zero_iff.mp (Nat.le_zero.mp few)
      exact ⟨[], named, rfl, .nil⟩
  | cons parameter more ih =>
      cases given with
      | cons value others =>
          rw [List.length_cons, List.take_succ_cons, List.forall_mem_cons] at once
          obtain ⟨values, rest, all, settles⟩ := ih apart (Nat.le_of_succ_le_succ few) once.2
          exact ⟨(parameter, some value) :: values, rest, congrArg _ all,
            .cons (.inOrder once.1) settles⟩
      | nil =>
          have few : ([] : List Json).length ≤ more.length := Nat.zero_le _
          by_cases free : IsFree parameter named
          · obtain ⟨values, rest, all, settles⟩ := ih apart few (by simp)
            exact ⟨(parameter, none) :: values, rest, congrArg _ all, .cons (.absent free) settles⟩
          · obtain ⟨⟨name, value⟩, member, rfl⟩ : ∃ field ∈ named, field.1 = .text parameter := by
              simpa [IsFree] using free
            obtain ⟨left, right, rfl⟩ := List.append_of_mem member
            have within : (left ++ right).Sublist (left ++ (.text parameter, value) :: right) :=
              (List.Sublist.refl left).append (List.sublist_cons_self _ _)
            obtain ⟨values, rest, all, settles⟩ := ih (apart.sublist within) few (by simp)
            exact ⟨(parameter, some value) :: values, rest, congrArg _ all,
              .cons (.byName (isFree_of_apart apart)) settles⟩

/-- What is bound is taken, where fields have different names. -/
theorem settles_of_bind {arguments : Json.Fields} (apart : Json.Apart named)
    (distinct : operation.parameters.Nodup)
    (bound : operation.bind given named = .ok (arguments, rest))
    : ∃ values,
        values.map Prod.fst = operation.parameters
        ∧ Settles given named values rest
        ∧ ∀ taken ∈ values, taken.1 ∈ operation.required → taken.2 ≠ none := by
  obtain ⟨once, few, rfl, complete⟩ := of_bind_eq_ok bound
  obtain ⟨values, left, all, settles⟩ := exists_settles apart few once
  have needed : ∀ taken ∈ values, taken.1 ∈ operation.required → taken.2 ≠ none := by
    intro taken member required none
    refine complete taken.1 required ?_
    rw [inOrder_eq_ordered all, takes_eq_isTaken all]
    exact (settles.lookup_bound (all ▸ distinct) taken member).trans none
  obtain ⟨_, again, -⟩ := settles.bind_eq_ok operation all distinct needed
  cases bound.symm.trans again
  exact ⟨values, all, settles, needed⟩

end Operation

-----------------------------------------------------------------------------------------
-- Requests
-----------------------------------------------------------------------------------------

namespace EventRequest

open Operation

/-- A request that is understood asks for an event. The log itself is the first value in order. A
request about a stage becomes a request for an event, so its fields cannot give the type of it.
-/
inductive Asks : EventRequest → Event → Prop
  | event {arguments : List Json} {fields rest : Json.Fields} {type : Json}
    (settles
      : Settles (.null :: arguments) fields [("self", some .null), ("event_type", some type)] rest)
    : Asks ⟨.event, arguments, fields⟩ ⟨type, rest⟩
  | stageStart {arguments : List Json} {fields rest : Json.Fields} {stage : Json}
    (settles
      : Settles (.null :: arguments) fields [("self", some .null), ("stage", some stage)] rest)
    (free : IsFree "event_type" rest)
    : Asks ⟨.stageStart, arguments, fields⟩ (.stageStart stage rest)
  | stageEnd {arguments : List Json} {fields rest : Json.Fields} {stage : Json}
    {status : Option Json}
    (settles
      : Settles (.null :: arguments) fields
          [("self", some .null), ("stage", some stage), ("status", status)] rest)
    (free : IsFree "event_type" rest)
    : Asks ⟨.stageEnd, arguments, fields⟩ (.stageEnd stage (status.getD (.text "ok")) rest)

theorem eventOf_eq_ok {given : List Json} {named rest : Json.Fields} {type : Json}
    (settles
      : Settles (.null :: given) named [("self", some .null), ("event_type", some type)] rest)
    : eventOf given named = .ok ⟨type, rest⟩ := by
  obtain ⟨arguments, bound, values⟩ :=
    settles.bind_eq_ok Announcement.event.operation rfl (by decide) (by simp)
  have found : Json.lookup arguments (.text "event_type") = some type :=
    values ("event_type", some type) (by simp)
  unfold eventOf Announcement.bind
  rw [bound]
  simp only [Bind.bind, Except.bind, argument, found]
  rfl

/-- A request for an event with fields for an event of a stage is understood. -/
theorem eventOf_stage {fields : Json.Fields} (self : IsFree "self" fields)
    (free : IsFree "event_type" fields) (type : Json)
    : eventOf [type] fields = .ok ⟨type, fields⟩ :=
  eventOf_eq_ok (.cons (.inOrder self) (.cons (.inOrder free) .nil))

/-- What a request asks for is its event. -/
theorem Asks.event_eq {request : EventRequest} {event : Event} (asks : request.Asks event)
    : request.event = .ok event := by
  cases asks with
  | event settles => exact eventOf_eq_ok settles
  | @stageStart given named rest stage settles free =>
      obtain ⟨arguments, bound, values⟩ :=
        settles.bind_eq_ok Announcement.stageStart.operation rfl (by decide) (by simp)
      have found : Json.lookup arguments (.text "stage") = some stage :=
        values ("stage", some stage) (by simp)
      have self : IsFree "self" rest := settles.free ("self", some .null) (by simp)
      unfold EventRequest.event Announcement.bind
      simp only [bound, Bind.bind, Except.bind, argument, found, Option.getD_some]
      exact eventOf_stage (self.cons (by decide) stage) (free.cons (by decide) stage) _
  | @stageEnd given named rest stage status settles free =>
      have optional : Text.ofString "status" ∉ Announcement.stageEnd.operation.required := by
        decide
      obtain ⟨arguments, bound, values⟩ :=
        settles.bind_eq_ok Announcement.stageEnd.operation rfl (by decide) (by simp [optional])
      have found : Json.lookup arguments (.text "stage") = some stage :=
        values ("stage", some stage) (by simp)
      have ended : Json.lookup arguments (.text "status") = status :=
        values ("status", status) (by simp)
      have self : IsFree "self" rest := settles.free ("self", some .null) (by simp)
      unfold EventRequest.event Announcement.bind
      simp only [bound, Bind.bind, Except.bind, argument, found, ended, Option.getD_some]
      exact eventOf_stage ((self.cons (by decide) _).cons (by decide) stage)
        ((free.cons (by decide) _).cons (by decide) stage) _

/-- What a request binds are the log, the value that it needs, and values that it can do without. -/
theorem settles_of_announcement {announcement : Announcement} {needed : Text} {given : List Json}
    {named arguments rest : Json.Fields} (apart : Json.Apart named)
    (needs : announcement.operation.required = [.ofString "self", needed])
    (bound : announcement.bind given named = .ok (arguments, rest))
    : ∃ value others,
        others.map Prod.fst = announcement.operation.optional
        ∧ Settles (.null :: given) named
            (("self", some .null) :: (needed, some value) :: others) rest := by
  have distinct : announcement.operation.parameters.Nodup := by
    cases announcement <;> decide
  obtain ⟨values, all, settles, required⟩ := settles_of_bind apart distinct bound
  rw [parameters, needs] at all
  obtain ⟨⟨_, log⟩, more, rfl, rfl, later⟩ := List.map_eq_cons_iff.mp all
  obtain ⟨⟨name, value⟩, others, rfl, rfl, optional⟩ := List.map_eq_cons_iff.mp later
  obtain ⟨value, rfl⟩ : ∃ some, value = .some some :=
    Option.ne_none_iff_exists'.mp (required (name, value) (by simp) (by simp [needs]))
  refine ⟨value, others, optional, ?_⟩
  cases settles with
  | cons first later =>
      cases first with
      | inOrder free => exact .cons (.inOrder free) later

theorem free_of_eventOf {type : Json} {fields : Json.Fields} {event : Event}
    (understood : eventOf [type] fields = .ok event)
    : IsFree "event_type" fields := by
  cases bound : Announcement.event.bind [type] fields with
  | error fault =>
      rw [eventOf, bound] at understood
      cases understood
  | ok result =>
      have given : Text.ofString "event_type" ∈ Announcement.event.operation.parameters.take 2 := by
        decide
      exact (of_bind_eq_ok bound).1 _ given

/-- A request that is understood has arguments that are bound. -/
theorem exists_bound {announcement : Announcement} {given : List Json} {named : Json.Fields}
    {event : Event}
    (understood : (EventRequest.mk announcement given named).event = .ok event)
    : ∃ arguments rest, announcement.bind given named = .ok (arguments, rest) := by
  cases bound : announcement.bind given named with
  | ok result => exact ⟨result.1, result.2, rfl⟩
  | error fault =>
      cases announcement with
      | event =>
          rw [EventRequest.event, eventOf, bound] at understood
          cases understood
      | stageStart | stageEnd =>
          rw [EventRequest.event, bound] at understood
          cases understood

/-- A request whose fields have different names is understood exactly if it asks for an event. -/
theorem event_eq_ok_iff {request : EventRequest} {event : Event}
    (apart : Json.Apart request.fields)
    : request.event = .ok event ↔ request.Asks event := by
  refine ⟨fun understood => ?_, Asks.event_eq⟩
  obtain ⟨other, asks⟩ : ∃ other, request.Asks other := by
    obtain ⟨announcement, given, named⟩ := request
    obtain ⟨arguments, rest, bound⟩ := exists_bound understood
    cases announcement with
    | event =>
        obtain ⟨type, others, none, settles⟩ := settles_of_announcement apart rfl bound
        obtain rfl := List.map_eq_nil_iff.mp none
        exact ⟨_, .event settles⟩
    | stageStart =>
        obtain ⟨stage, others, none, settles⟩ := settles_of_announcement apart rfl bound
        obtain rfl := List.map_eq_nil_iff.mp none
        rw [EventRequest.event, bound] at understood
        have free := free_of_eventOf understood
        exact ⟨_, .stageStart settles fun field member => free field (.tail _ member)⟩
    | stageEnd =>
        obtain ⟨stage, others, one, settles⟩ := settles_of_announcement apart rfl bound
        obtain ⟨⟨_, status⟩, more, rfl, rfl, none⟩ := List.map_eq_cons_iff.mp one
        obtain rfl := List.map_eq_nil_iff.mp none
        rw [EventRequest.event, bound] at understood
        have free := free_of_eventOf understood
        exact ⟨_, .stageEnd settles fun field member => free field (.tail _ (.tail _ member))⟩
  cases understood.symm.trans asks.event_eq
  exact asks

end EventRequest

end ArkLifecycle
