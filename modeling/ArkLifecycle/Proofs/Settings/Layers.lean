import ArkLifecycle.Proofs.Settings.Overrides
import ArkLifecycle.Proofs.Yaml.Fields

/-! What the layers of the settings make of an option.

A section of a file is laid over the default section of its name, and single options are put on
top. This loses no default as long as the file gives mappings for the default sections. Anything
else that it gives for one, null too, stands in the place of the whole section.
-/

namespace ArkLifecycle.Settings

open CommandLine (applyOverrides overrides)

/-- The settings have all layers: what the environment says about an option of a default section,
else what the file gives for it, else the default; and what only the file has.
-/
structure Layered (environment : List (Text × Text)) (loaded settings : Json.Fields) : Prop where
  mappings
    : ∀ section_ ∈ defaults.map Prod.fst,
        ∃ options, (Json.lookup settings section_).bind Json.fields? = some options
  options
    : ∀ section_ ∈ defaults.map Prod.fst, ∀ option,
        given settings section_ option
          = ((environmental environment section_ option).or (given loaded section_ option)).or
              (given defaults section_ option)
  others
    : ∀ section_ ∉ defaults.map Prod.fst,
        Json.lookup settings section_ = Json.lookup loaded section_

/-- Whatever some sections give for a default section is a mapping. -/
def MapsDefaults (loaded : Json.Fields) : Prop :=
  ∀ section_ ∈ defaults.map Prod.fst, ∀ value ∈ Json.lookup loaded section_, value.fields?.isSome

instance (loaded : Json.Fields) : Decidable (MapsDefaults loaded) :=
  inferInstanceAs (Decidable (∀ section_ ∈ defaults.map Prod.fst,
    ∀ value ∈ Json.lookup loaded section_, value.fields?.isSome))

-----------------------------------------------------------------------------------------
-- The file over the defaults
-----------------------------------------------------------------------------------------

/-- (laid known values) is what becomes of a section when a file gives it. -/
def laid (known : Option Json) (values : Json) : Json :=
  match values.fields?, known.bind Json.fields? with
  | some more, some known => .object (Json.merge known more)
  | _, _ => values

theorem mergeSection_eq_put (settings : Json.Fields) (section_ : Scalar) (values : Json)
    : mergeSection settings section_ values
      = Json.put settings section_ (laid (Json.lookup settings section_) values) := by
  unfold mergeSection laid
  split <;> simp_all

/-- Every section of a file is laid over the settings once.
Witness: induction over the sections, no two of which have the same name.
-/
theorem lookup_overlay (settings : Json.Fields) {loaded : Json.Fields} (apart : Json.Apart loaded)
    (section_ : Scalar)
    : Json.lookup (overlay settings loaded) section_
      = ((Json.lookup loaded section_).map (laid (Json.lookup settings section_))).or
          (Json.lookup settings section_) := by
  induction loaded generalizing settings with
  | nil => rfl
  | cons field rest ih =>
      have others := List.Pairwise.of_cons apart
      have later := ih (mergeSection settings field.1 field.2) others
      refine later.trans ?_
      rw [Json.lookup_cons, mergeSection_eq_put, Json.lookup_put]
      cases named : Name.same field.1 section_ with
      | true => simp [apart.lookup_rest named, Json.lookup_congr named]
      | false => simp

theorem fields?_laid {known : Option Json} {values : Json} {options : Json.Fields}
    (mapping : (laid known values).fields? = some options)
    : values.fields?.isSome := by
  unfold laid at mapping
  split at mapping
  · next some_ _ => simp [some_]
  · simp [mapping]

/-- What a mapping is laid over stays where the mapping gives nothing. -/
theorem laid_eq {known values : Json} {default more : Json.Fields}
    (below : known.fields? = some default) (above : values.fields? = some more)
    : laid (some known) values = .object (Json.merge default more) := by
  simp [laid, below, above]

-----------------------------------------------------------------------------------------
-- All layers
-----------------------------------------------------------------------------------------

theorem exists_default {section_ : Scalar} (default : section_ ∈ defaults.map Prod.fst)
    : ∃ values options,
        Json.lookup defaults section_ = some values ∧ values.fields? = some options := by
  simp only [defaults, List.map_cons, List.map_nil, List.mem_cons, List.not_mem_nil, or_false]
    at default
  obtain rfl | rfl | rfl := default <;> exact ⟨_, _, rfl, rfl⟩

theorem lookup_defaults_eq_none {section_ : Scalar} (other : section_ ∉ defaults.map Prod.fst)
    : Json.lookup defaults section_ = none := by
  rw [Json.lookup, Option.map_eq_none_iff, List.find?_eq_none]
  intro field member same
  have named : ∃ name : Text, field.1 = .text name := by
    simp only [defaults, List.mem_cons, List.not_mem_nil, or_false] at member
    obtain rfl | rfl | rfl := member <;> exact ⟨_, rfl⟩
  obtain ⟨name, named⟩ := named
  rw [named, Json.same_text_iff, ← named] at same
  exact other (List.mem_map.mpr ⟨field, member, same.symm⟩)

/-- Over a default section with a mapping, or nothing, from the file stands a mapping.
Witness: the options of the file are merged into those of the default section.
-/
theorem overlay_given {loaded : Json.Fields} (apart : Json.Apart loaded)
    (orderly : ∀ field ∈ loaded, field.2.Orderly) (maps : MapsDefaults loaded) {section_ : Scalar}
    (default : section_ ∈ defaults.map Prod.fst)
    : ∃ options,
        (Json.lookup (overlay defaults loaded) section_).bind Json.fields? = some options
        ∧ ∀ option,
            Json.lookup options option
              = (given loaded section_ option).or (given defaults section_ option) := by
  obtain ⟨values, known, found, mapping⟩ := exists_default default
  have below (option : Scalar) : given defaults section_ option = Json.lookup known option := by
    rw [given, found, Option.bind_some, mapping, Option.bind_some]
  rw [lookup_overlay defaults apart]
  cases written : Json.lookup loaded section_ with
  | none =>
      refine ⟨known, by rw [found]; exact mapping, fun option => ?_⟩
      rw [below, given, written]
      rfl
  | some written_ =>
      obtain ⟨more, above⟩ := Option.isSome_iff_exists.mp (maps section_ default written_ written)
      obtain ⟨field, member, -, rfl⟩ := apart.lookup_eq_some_iff.mp written
      refine ⟨Json.merge known more, ?_, fun option => ?_⟩
      · rw [found, Option.map_some, Option.some_or, laid_eq mapping above]
        rfl
      · rw [Json.lookup_merge _ ((orderly field member).fields above).1, below, given, written,
          Option.bind_some, above, Option.bind_some]

/-- The variables are laid over a file that gives mappings for the default sections. -/
theorem layered_of_maps {loaded : Json.Fields} (apart : Json.Apart loaded)
    (orderly : ∀ field ∈ loaded, field.2.Orderly) (maps : MapsDefaults loaded)
    (environment : List (Text × Text))
    : ∃ settings options,
        applyOverrides (overlay defaults loaded) (chosenBy environment environmentOptions)
          = .ok settings
        ∧ Analysis settings options
        ∧ Layered environment loaded settings := by
  have first : Scalar.text "analysis" ∈ defaults.map Prod.fst := by decide
  obtain ⟨known, analysis, told⟩ := overlay_given apart orderly maps first
  obtain ⟨settings, done, merged, kept⟩ :=
    applyOverrides_eq_ok analysis (chosenBy environment environmentOptions)
  refine ⟨settings, _, done, merged, fun section_ default => ?_, fun section_ default option => ?_,
    fun section_ other => ?_⟩
  -- Variables change no section but the analysis.
  · by_cases here : section_ = .text "analysis"
    · subst here
      exact ⟨_, merged⟩
    · rw [kept section_ here]
      obtain ⟨options, mapping, -⟩ := overlay_given apart orderly maps default
      exact ⟨options, mapping⟩
  · by_cases here : section_ = .text "analysis"
    · subst here
      rw [merged.given_eq, Json.lookup_merge _ (apart_chosenBy environment), lookup_chosenBy, told,
        Option.or_assoc]
    · obtain ⟨options, mapping, told⟩ := overlay_given apart orderly maps default
      have silent : environmental environment section_ option = none := by
        simp [environmental, here]
      rw [given, kept section_ here, mapping, Option.bind_some, told, silent, Option.none_or]
  · have unlike : section_ ≠ .text "analysis" := fun same => other (same ▸ first)
    rw [kept section_ unlike, lookup_overlay defaults apart, lookup_defaults_eq_none other]
    cases Json.lookup loaded section_ with
    | none => rfl
    | some values => simp [laid]

/-- When the settings have a mapping for a default section, the file gave one, or nothing.
Witness: options can be put on top of a mapping only, and they leave all other sections alone.
-/
theorem maps_of_layered {loaded settings : Json.Fields} (apart : Json.Apart loaded)
    {environment : List (Text × Text)} {chosen : Json.Fields}
    (done : applyOverrides (overlay defaults loaded) chosen = .ok settings)
    (layered : Layered environment loaded settings)
    : MapsDefaults loaded := by
  intro section_ default values written
  obtain ⟨changed, kept⟩ := applyOverrides_inv done
  obtain ⟨options, mapping⟩ := layered.mappings section_ default
  have placed : Json.lookup (overlay defaults loaded) section_
      = some (laid (Json.lookup defaults section_) values) := by
    rw [lookup_overlay defaults apart, written, Option.map_some, Option.some_or]
  -- The analysis may have become a mapping only since, by options that were put into it.
  have mapped : (laid (Json.lookup defaults section_) values).fields?.isSome := by
    by_cases here : section_ = .text "analysis"
    · subst here
      obtain rfl | changed := changed
      · rw [placed, Option.bind_some] at mapping
        rw [mapping]
        rfl
      · rwa [placed, Option.getD_some] at changed
    · rw [kept section_ here, placed, Option.bind_some] at mapping
      rw [mapping]
      rfl
  obtain ⟨options, mapping⟩ := Option.isSome_iff_exists.mp mapped
  exact fields?_laid mapping

/-- A mapping that counts as empty has no fields. -/
theorem eq_nil_of_not_truthy {v : Json} {fields : Json.Fields} (mapping : v.fields? = some fields)
    (empty : v.truthy = false)
    : fields = [] := by
  cases v with
  | object own =>
      cases mapping
      exact List.isEmpty_iff.mp (by simpa [Json.truthy] using empty)
  | cyclic layers place => cases empty
  | _ => cases mapping

theorem readFile_eq {tree : FileTree} {written : Text} {text : String} {document : Json}
    {loaded : Json.Fields} (opened : tree.read (.ofText written) = .ok text)
    (parsed : Yaml.parse text = .ok document) (mapping : document.fields? = some loaded)
    : readFile tree written = .ok loaded := by
  unfold readFile
  simp only [opened, parsed, bind, Except.bind]
  cases given : document.truthy with
  | true => simp [mapping, pure, Except.pure]
  | false => simp [eq_nil_of_not_truthy mapping given, pure, Except.pure]

/-- The settings have all layers, and follow the command line, exactly if the file gives mappings
for the default sections.
Witness: mappings are merged, and anything else stands in the place of a section.
-/
theorem load_layered_iff {tree : FileTree} {written : Text} {text : String} {document : Json}
    {loaded : Json.Fields} (stands : tree.contains (.ofText written) = .ok true)
    (opened : tree.read (.ofText written) = .ok text) (parsed : Yaml.parse text = .ok document)
    (mapping : document.fields? = some loaded) (environment : List (Text × Text))
    : (∃ settings,
        load tree (some written) environment = .ok settings
        ∧ Layered environment loaded settings
        ∧ ∀ options,
            ∃ after,
              applyOverrides settings (overrides options) = .ok after
              ∧ Follows options settings after)
      ↔ MapsDefaults loaded := by
  obtain ⟨apart, orderly⟩ := (Yaml.parse_orderly parsed).fields mapping
  have course
      : load tree (some written) environment
        = applyOverrides (overlay defaults loaded) (chosenBy environment environmentOptions) := by
    rw [← applyEnvironment_eq]
    simp [load, stands, readFile_eq opened parsed mapping, bind, Except.bind]
  rw [course]
  constructor
  · rintro ⟨settings, done, layered, -⟩
    exact maps_of_layered apart done layered
  · intro maps
    obtain ⟨settings, known, done, analysis, layered⟩ :=
      layered_of_maps apart orderly maps environment
    exact ⟨settings, done, layered, applyOverrides_follows analysis⟩

/-- (holding text) is the tree whose only file holds settings. -/
def holding (text : String) : FileTree :=
  ⟨[([Text.ofString "settings.yaml"], .file text)]⟩

theorem exists_of_loaded {α : Type} {read : Except Fault Json} {test : Json.Fields → α} {result : α}
    (told : (read.toOption.bind Json.fields?).map test = some result)
    : ∃ document loaded,
        read = .ok document ∧ document.fields? = some loaded ∧ test loaded = result := by
  obtain ⟨loaded, found, tested⟩ := Option.map_eq_some_iff.mp told
  cases read with
  | error fault => cases found
  | ok document => exact ⟨document, loaded, rfl, found, tested⟩

/-- (sparse) gives one option for each of two sections, and a section of its own. -/
def sparse : String :=
  "analysis:\n  workers: 4\ntelemetry:\n  enabled: true\nextra: 1\n"

/-- A file that gives some options leaves the others what they are. -/
theorem load_layered_iff_sparse
    : ∃ document loaded,
        Yaml.parse sparse = .ok document
        ∧ document.fields? = some loaded
        ∧ MapsDefaults loaded
        ∧ ∃ settings,
            load (holding sparse) (some "settings.yaml") [("LIFECYCLE_CATALOG", "v1-minimal")]
              = .ok settings
            ∧ Layered [("LIFECYCLE_CATALOG", "v1-minimal")] loaded settings
            ∧ ∀ options,
                ∃ after,
                  applyOverrides settings (overrides options) = .ok after
                  ∧ Follows options settings after := by
  have told
      : ((Yaml.parse sparse).toOption.bind Json.fields?).map
          (fun loaded => decide (MapsDefaults loaded))
        = some true := by
    decide +kernel
  obtain ⟨document, loaded, parsed, mapping, maps⟩ := exists_of_loaded told
  have maps := of_decide_eq_true maps
  have stands : (holding sparse).contains (.ofText "settings.yaml") = .ok true := by decide +kernel
  have opened : (holding sparse).read (.ofText "settings.yaml") = .ok sparse := by decide +kernel
  exact ⟨document, loaded, parsed, mapping, maps,
    (load_layered_iff stands opened parsed mapping _).mpr maps⟩

/-- A section that is left empty stands in the place of its defaults: the analysis is no mapping. -/
theorem load_emptied
    : ∃ document loaded settings,
        Yaml.parse "analysis:\n" = .ok document
        ∧ document.fields? = some loaded
        ∧ load (holding "analysis:\n") (some "settings.yaml") [] = .ok settings
        ∧ (Json.lookup settings (.text "analysis")).map Json.shape = some .null
        ∧ (Json.lookup settings (.text "analysis")).bind Json.fields? = none := by
  have told
      : ((Yaml.parse "analysis:\n").toOption.bind Json.fields?).map List.length = some 1 := by
    decide +kernel
  obtain ⟨document, loaded, parsed, mapping, -⟩ := exists_of_loaded told
  have shown
      : (load (holding "analysis:\n") (some "settings.yaml") []).toOption.map (fun settings =>
          ((Json.lookup settings (.text "analysis")).map Json.shape,
            ((Json.lookup settings (.text "analysis")).bind Json.fields?).isNone))
        = some (some .null, true) := by
    decide +kernel
  cases read : load (holding "analysis:\n") (some "settings.yaml") [] with
  | error fault =>
      rw [read] at shown
      cases shown
  | ok settings =>
      rw [read] at shown
      obtain ⟨shape, unmapped⟩ := Prod.mk.inj (Option.some.inj shown)
      exact ⟨document, loaded, settings, parsed, mapping, rfl, shape,
        Option.isNone_iff_eq_none.mp unmapped⟩

end ArkLifecycle.Settings
