import ArkLifecycle.CommandLine.Outcome
import ArkLifecycle.Proofs.Json.Fields
import ArkLifecycle.Proofs.Session.Inquiry

/-! Single options that are put on top of the settings.

The environment and the command line override options of the analysis in the same way, one after the
other. This succeeds when the analysis is a mapping, which then has the options that were put, and
leaves all else as it is.
-/

namespace ArkLifecycle.Settings

open CommandLine (Options applyOverrides overrides)

-----------------------------------------------------------------------------------------
-- What is meant to be overridden
-----------------------------------------------------------------------------------------

/-- (given sections section option) is what some sections give for an option of one of them. -/
def given (sections : Json.Fields) (section_ option : Scalar) : Option Json :=
  ((Json.lookup sections section_).bind Json.fields?).bind fun options => Json.lookup options option

/-- (setTo environment name) is the text that a variable is set to; an empty one counts as not set.
-/
def setTo (environment : List (Text × Text)) (name : Text) : Option Json :=
  ((Json.lookup environment name).filter fun value => !value.isEmpty).map Json.text

/-- (environmental environment section option) is what the environment says about an option: there
are variables for the catalog and for the directory of the results.
-/
def environmental (environment : List (Text × Text)) (section_ option : Scalar) : Option Json :=
  if section_ = .text "analysis" ∧ option = .text "catalog" then
    setTo environment "LIFECYCLE_CATALOG"
  else if section_ = .text "analysis" ∧ option = .text "artifacts_dir" then
    setTo environment "LIFECYCLE_OUTPUT_DIR"
  else
    none

/-- The command line gives an option of the analysis a value. An empty text and zero give none. -/
inductive Gives (options : Options) : Scalar → Json → Prop
  | catalog {name : Text} (said : options.catalog = some name) (filled : name.isEmpty = false)
    : Gives options (.text "catalog") (.text name)
  | out {path : Text} (said : options.out = some path) (filled : path.isEmpty = false)
    : Gives options (.text "artifacts_dir") (.text path)
  | workers {count : Int} (said : options.workers = some count) (filled : count ≠ 0)
    : Gives options (.text "workers") (.int count)
  | includeTests (said : options.includeTests = true)
    : Gives options (.text "skip_test_files") (.bool false)
  | scope {scope : Scope} (said : options.scope = some scope)
    : Gives options (.text "scope") (.text scope.name)

/-- The options that the command line gives have their values, and all else is as it was. -/
structure Follows (options : Options) (before after : Json.Fields) : Prop where
  taken
    : ∀ option value,
        Gives options option value → given after (.text "analysis") option = some value
  kept
    : ∀ option,
        (∀ value, ¬Gives options option value)
        → given after (.text "analysis") option = given before (.text "analysis") option
  others
    : ∀ section_, section_ ≠ .text "analysis"
        → Json.lookup after section_ = Json.lookup before section_

-----------------------------------------------------------------------------------------
-- Single options on top
-----------------------------------------------------------------------------------------

theorem withPart_eq_ok {v : Json} {options : Json.Fields} (mapping : v.fields? = some options)
    (name : Scalar) (value : Json)
    : v.withPart name value = .ok (.object (Json.put options name value)) := by
  unfold Json.fields? at mapping
  unfold Json.withPart
  split at mapping
  · next opened =>
      cases mapping
      rw [opened]
  · cases mapping

theorem fields?_of_withPart {v after : Json} {name : Scalar} {value : Json}
    (done : v.withPart name value = .ok after)
    : v.fields?.isSome := by
  unfold Json.withPart at done
  unfold Json.fields?
  split at done
  · next opened => rw [opened]; rfl
  · cases done
  · cases done

/-- The analysis of the settings is a mapping with these options. -/
def Analysis (settings options : Json.Fields) : Prop :=
  (Json.lookup settings (.text "analysis")).bind Json.fields? = some options

theorem Analysis.given_eq {settings options : Json.Fields} (analysis : Analysis settings options)
    (option : Scalar)
    : given settings (.text "analysis") option = Json.lookup options option := by
  rw [given, analysis, Option.bind_some]

/-- All other sections are left alone by options of the analysis. -/
theorem lookup_put_analysis (settings : Json.Fields) (value : Json) {section_ : Scalar}
    (other : section_ ≠ .text "analysis")
    : Json.lookup (Json.put settings (.text "analysis") value) section_
      = Json.lookup settings section_ := by
  rw [Json.lookup_put, if_neg]
  intro same
  rw [Json.same_comm] at same
  exact other ((Scalar.same_text_iff _ _).mp same)

/-- Options are put one after the other into an analysis that is a mapping.
Witness: induction over the options; the analysis stays a mapping.
-/
theorem applyOverrides_eq_ok {settings options : Json.Fields} (analysis : Analysis settings options)
    (chosen : Json.Fields)
    : ∃ after,
        applyOverrides settings chosen = .ok after
        ∧ Analysis after (Json.merge options chosen)
        ∧ ∀ section_, section_ ≠ .text "analysis"
            → Json.lookup after section_ = Json.lookup settings section_ := by
  induction chosen generalizing settings options with
  | nil => exact ⟨settings, rfl, analysis, fun _ _ => rfl⟩
  | cons field rest ih =>
      obtain ⟨value, found, mapping⟩ := Option.bind_eq_some_iff.mp analysis
      have set
          : setOption settings field.1 field.2
            = .ok (Json.put settings (.text "analysis")
                (.object (Json.put options field.1 field.2))) := by
        rw [setOption, found, Option.getD_some, withPart_eq_ok mapping]
        rfl
      have next
          : Analysis
              (Json.put settings (.text "analysis") (.object (Json.put options field.1 field.2)))
              (Json.put options field.1 field.2) := by
        rw [Analysis, Json.lookup_put, if_pos (LawfulName.equivalence.refl _)]
        rfl
      obtain ⟨after, done, merged, kept⟩ := ih next
      refine ⟨after, ?_, merged, fun section_ other => ?_⟩
      · rw [applyOverrides, set]
        exact done
      · rw [kept section_ other, lookup_put_analysis settings _ other]

/-- Options can be put only into an analysis that is a mapping, and no other section changes.
Witness: induction over the options; the first one finds whether there is a mapping.
-/
theorem applyOverrides_inv {settings after : Json.Fields} {chosen : Json.Fields}
    (done : applyOverrides settings chosen = .ok after)
    : (after = settings
        ∨ ((Json.lookup settings (.text "analysis")).getD (.object [])).fields?.isSome)
      ∧ ∀ section_, section_ ≠ .text "analysis"
          → Json.lookup after section_ = Json.lookup settings section_ := by
  induction chosen generalizing settings with
  | nil =>
      cases done
      exact ⟨.inl rfl, fun _ _ => rfl⟩
  | cons field rest ih =>
      obtain ⟨middle, set, done⟩ := bind_eq_ok done
      obtain ⟨value, changed, set⟩ := bind_eq_ok set
      cases set
      refine ⟨.inr (fields?_of_withPart changed), fun section_ other => ?_⟩
      rw [(ih done).2 section_ other, lookup_put_analysis settings _ other]

-----------------------------------------------------------------------------------------
-- Which options are put
-----------------------------------------------------------------------------------------

theorem lookup_override (name : Text) (value : Option Json) (option : Scalar)
    : Json.lookup (CommandLine.override name value) option
      = if option = .text name then value else none := by
  cases value with
  | none => simp [CommandLine.override, Json.lookup]
  | some value =>
      have named := Json.same_text_iff name option
      simp [CommandLine.override, Json.lookup, List.find?_cons]
      split <;> simp_all

/-- (chosen choices) are the options that are chosen, of some that may be. -/
def chosen (choices : List (Text × Option Json)) : Json.Fields :=
  choices.flatMap fun choice => CommandLine.override choice.1 choice.2

/-- Options with different names are chosen apart from each other. -/
theorem apart_chosen {choices : List (Text × Option Json)}
    (distinct : (choices.map Prod.fst).Nodup)
    : Json.Apart (chosen choices) := by
  refine List.pairwise_flatMap.mpr ⟨fun choice _ => ?_, ?_⟩
  · cases choice.2 <;> simp [CommandLine.override]
  · refine (List.pairwise_map.mp distinct).imp fun {first second} unlike => ?_
    intro one member other listed
    obtain ⟨_, -, rfl⟩ := List.mem_map.mp member
    obtain ⟨_, -, rfl⟩ := List.mem_map.mp listed
    rw [Bool.eq_false_iff]
    intro same
    exact unlike (Scalar.text.inj ((Json.same_text_iff _ _).mp same)).symm

/-- An option has the value of the one choice that is made for it. -/
theorem lookup_chosen_iff {choices : List (Text × Option Json)}
    (distinct : (choices.map Prod.fst).Nodup) (option : Scalar) (value : Json)
    : Json.lookup (chosen choices) option = some value
      ↔ ∃ name, (name, some value) ∈ choices ∧ option = .text name := by
  rw [(apart_chosen distinct).lookup_eq_some_iff]
  constructor
  · rintro ⟨field, member, named, rfl⟩
    obtain ⟨choice, listed, member⟩ := List.mem_flatMap.mp member
    obtain ⟨value, some, rfl⟩ := List.mem_map.mp member
    refine ⟨choice.1, ?_, (Json.same_text_iff _ _).mp named⟩
    rwa [← Option.mem_toList.mp some]
  · rintro ⟨name, listed, rfl⟩
    refine ⟨(.text name, value), List.mem_flatMap.mpr ⟨_, listed, ?_⟩,
      (Json.same_text_iff _ _).mpr rfl, rfl⟩
    simp [CommandLine.override]

/-- (chosenBy environment options) are the options that variables override. -/
def chosenBy (environment : List (Text × Text)) (options : List (Text × Text)) : Json.Fields :=
  chosen (options.map fun option => (option.2, setTo environment option.1))

/-- The environment overrides options as the command line does.
Witness: induction over the variables; one that is empty or not set chooses nothing.
-/
theorem applyEnvironment_eq (environment : List (Text × Text)) (settings : Json.Fields)
    (options : List (Text × Text))
    : applyEnvironment environment settings options
      = applyOverrides settings (chosenBy environment options) := by
  induction options generalizing settings with
  | nil => rfl
  | cons option rest ih =>
      unfold applyEnvironment
      rw [chosenBy, chosen, List.map_cons, List.flatMap_cons]
      cases found : Json.lookup environment option.1 with
      | none =>
          have unset : setTo environment option.1 = none := by simp [setTo, found]
          rw [unset]
          exact ih settings
      | some value =>
          cases empty : value.isEmpty with
          | true =>
              have unset : setTo environment option.1 = none := by simp [setTo, found, empty]
              rw [unset]
              simp only [empty, if_true]
              exact ih settings
          | false =>
              have told : setTo environment option.1 = some (.text value) := by
                simp [setTo, found, empty]
              rw [told]
              simp only [empty, Bool.false_eq_true, if_false]
              exact congrArg (setOption settings option.2 (.text value) >>= ·) (funext ih)

theorem apart_chosenBy (environment : List (Text × Text))
    : Json.Apart (chosenBy environment environmentOptions) :=
  apart_chosen <| by
    rw [List.map_map]
    exact (by decide : (environmentOptions.map Prod.snd).Nodup)

theorem lookup_chosenBy (environment : List (Text × Text)) (option : Scalar)
    : Json.lookup (chosenBy environment environmentOptions) option
      = environmental environment (.text "analysis") option := by
  have both
      : chosenBy environment environmentOptions
        = CommandLine.override "catalog" (setTo environment "LIFECYCLE_CATALOG")
          ++ CommandLine.override "artifacts_dir" (setTo environment "LIFECYCLE_OUTPUT_DIR") := by
    simp [chosenBy, chosen, environmentOptions]
  rw [both, Json.lookup_append, lookup_override, lookup_override, environmental]
  by_cases catalog : option = .text "catalog"
  · have unlike : ¬Scalar.text "catalog" = .text "artifacts_dir" := by decide
    simp [catalog, unlike]
  · simp [catalog]

/-- (choicesOf options) are the options of the analysis that the command line may give. -/
def choicesOf (options : Options) : List (Text × Option Json) := [
  ("catalog", CommandLine.telling (options.catalog.map Json.text)),
  ("artifacts_dir", CommandLine.telling (options.out.map Json.text)),
  ("workers", CommandLine.telling (options.workers.map Json.int)),
  ("skip_test_files", if options.includeTests then some (.bool false) else none),
  ("scope", options.scope.map fun scope => .text scope.name)]

theorem overrides_eq_chosen (options : Options)
    : overrides options = chosen (choicesOf options) := by
  simp [overrides, chosen, choicesOf]

theorem choicesOf_distinct (options : Options) : ((choicesOf options).map Prod.fst).Nodup := by
  simp only [choicesOf, List.map_cons, List.map_nil]
  decide

theorem telling_eq_some_iff {given : Option Json} {value : Json}
    : CommandLine.telling given = some value ↔ given = some value ∧ value.truthy = true := by
  rw [CommandLine.telling, Option.filter_eq_some_iff]

theorem apart_overrides (options : Options) : Json.Apart (overrides options) := by
  rw [overrides_eq_chosen]
  exact apart_chosen (choicesOf_distinct options)

/-- What is put on top for the command line is what it gives. -/
theorem lookup_overrides_iff (options : Options) (option : Scalar) (value : Json)
    : Json.lookup (overrides options) option = some value ↔ Gives options option value := by
  rw [overrides_eq_chosen, lookup_chosen_iff (choicesOf_distinct options)]
  constructor
  · rintro ⟨name, listed, rfl⟩
    simp only [choicesOf, List.mem_cons, List.not_mem_nil, or_false, Prod.mk.injEq,
      eq_comm (a := some value), telling_eq_some_iff, Option.map_eq_some_iff] at listed
    obtain ⟨rfl, ⟨text, said, rfl⟩, truthy⟩ | ⟨rfl, ⟨text, said, rfl⟩, truthy⟩
      | ⟨rfl, ⟨count, said, rfl⟩, truthy⟩ | ⟨rfl, asked⟩ | ⟨rfl, scope, said, rfl⟩ := listed
    · exact .catalog said (by simpa [Json.truthy, Scalar.truthy] using truthy)
    · exact .out said (by simpa [Json.truthy, Scalar.truthy] using truthy)
    · exact .workers said (by simpa [Json.truthy, Scalar.truthy] using truthy)
    · split at asked
      · next said =>
          cases asked
          exact .includeTests said
      · cases asked
    · exact .scope said
  · intro gives
    cases gives with
    | @catalog name said filled =>
        have told : CommandLine.telling (options.catalog.map Json.text) = some (.text name) :=
          telling_eq_some_iff.mpr ⟨by rw [said]; rfl, by simp [Json.truthy, Scalar.truthy, filled]⟩
        exact ⟨"catalog", by simp [choicesOf, told], rfl⟩
    | @out directory said filled =>
        have told : CommandLine.telling (options.out.map Json.text) = some (.text directory) :=
          telling_eq_some_iff.mpr ⟨by rw [said]; rfl, by simp [Json.truthy, Scalar.truthy, filled]⟩
        exact ⟨"artifacts_dir", by simp [choicesOf, told], rfl⟩
    | @workers count said filled =>
        have told : CommandLine.telling (options.workers.map Json.int) = some (.int count) :=
          telling_eq_some_iff.mpr ⟨by rw [said]; rfl, by simp [Json.truthy, Scalar.truthy, filled]⟩
        exact ⟨"workers", by simp [choicesOf, told], rfl⟩
    | includeTests said => exact ⟨"skip_test_files", by simp [choicesOf, said], rfl⟩
    | scope said => exact ⟨"scope", by simp [choicesOf, said], rfl⟩

/-- The options of the command line follow on top of any analysis that is a mapping. -/
theorem applyOverrides_follows {settings known : Json.Fields} (analysis : Analysis settings known)
    (options : Options)
    : ∃ after,
        applyOverrides settings (overrides options) = .ok after
        ∧ Follows options settings after := by
  obtain ⟨after, done, merged, kept⟩ := applyOverrides_eq_ok analysis (overrides options)
  have found (option : Scalar)
      : given after (.text "analysis") option
        = (Json.lookup (overrides options) option).or
            (given settings (.text "analysis") option) := by
    rw [merged.given_eq, analysis.given_eq, Json.lookup_merge _ (apart_overrides options)]
  refine ⟨after, done, ⟨fun option value gives => ?_, fun option nothing => ?_, kept⟩⟩
  · rw [found, (lookup_overrides_iff options option value).mpr gives, Option.some_or]
  · have absent : Json.lookup (overrides options) option = none := by
      refine Option.eq_none_iff_forall_ne_some.mpr fun value some => ?_
      exact nothing value ((lookup_overrides_iff options option value).mp some)
    rw [found, absent, Option.none_or]

end ArkLifecycle.Settings
