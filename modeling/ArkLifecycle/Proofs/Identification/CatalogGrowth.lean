import ArkLifecycle.Proofs.Identification.Exactness

/-! What becomes of the callbacks of a smaller catalog under a larger one.

More names, component bases and markers only add callbacks. More ability bases can take some away:
a UI component that descends from one of the new bases becomes an entry container, and then the
catalog looks for its methods among the abilities.
-/

namespace ArkLifecycle

open Activity Classification

theorem Text.ofString_inj {first second : String}
    : Text.ofString first = Text.ofString second ↔ first = second := by
  refine ⟨fun same => ?_, congrArg Text.ofString⟩
  have letters := congrArg Text.toList same
  exact String.toList_injective (List.map_injective_iff.mpr (fun _ _ => Letter.char.inj) letters)

/-- Every name, component base and marker of one catalog stands in the other, and both leave out
the same generated classes. Nothing is said of ability bases.
-/
structure Catalog.Within (small large : Catalog) : Prop where
  names : ∀ kind, small.names kind ⊆ large.names kind
  componentBases : small.componentBases ⊆ large.componentBases
  markers : small.markers ⊆ large.markers
  patterns : small.syntheticPatterns = large.syntheticPatterns

namespace Identification

-----------------------------------------------------------------------------------------
-- The methods that are looked at
-----------------------------------------------------------------------------------------

/-- (declarations catalog skipTests files) are the methods of the examined classes in order, each
with its class.
-/
def declarations (catalog : Catalog) (skipTests : Bool) (files : List SourceFile)
    : List (ClassDecl × Method) :=
  (examined catalog skipTests files).flatMap fun decl => decl.methods.map (decl, ·)

/-- (recordAt program catalog declared) is the record of a method, as the role of its class decides.
-/
def recordAt (program : Program) (catalog : Catalog) (declared : ClassDecl × Method)
    : Option Record :=
  recordIn catalog declared.1 (kindsOf catalog (roleIn program catalog declared.1)) declared.2

/-- The record of a method names its class and holds the method itself. -/
theorem recordAt_entity {program : Program} {catalog : Catalog}
    {declared : ClassDecl × Method} {record : Record}
    (given : recordAt program catalog declared = some record)
    : record.className = declared.1.name ∧ record.method = some declared.2 := by
  obtain ⟨kind, -, rfl⟩ := Option.map_eq_some_iff.mp given
  exact ⟨rfl, rfl⟩

/-- A method has a record exactly if some kind of its class's role lists its name. -/
theorem recordAt_isSome_iff (program : Program) (catalog : Catalog)
    (declared : ClassDecl × Method)
    : (recordAt program catalog declared).isSome
      ↔ ∃ kind, Lists catalog (roleIn program catalog declared.1) declared.2.name kind := by
  have emits :=
    recordIn_emits catalog (roleIn program catalog declared.1) declared.1 declared.2
  unfold recordAt
  generalize recordIn catalog declared.1 _ declared.2 = given at emits ⊢
  cases emits with
  | @record kind _ listed _ _ => simpa using ⟨kind, listed⟩
  | nothing unlisted => simpa using unlisted

/-- For an obliging host the records are those of the methods looked at, in order. -/
theorem identify_declarations {host : Host} (obliging : host.Obliging) (program : Program)
    {catalog : Catalog} (texts : catalog.PatternsAreTexts) (skipTests : Bool) (before : Session)
    : ∃ found after,
        outcome (identify host program catalog skipTests) before = (.ok found, after)
        ∧ found.records
          = (declarations catalog skipTests program.files).filterMap
              (recordAt program catalog) := by
  obtain ⟨visits, found, after, done, -, visited⟩ :=
    identify_isolated texts host program skipTests before
  refine ⟨found, after, done, ?_⟩
  rw [visited.records_obliged obliging, declarations, List.filterMap_flatMap]
  simp only [List.filterMap_map]
  rfl

/-- Where each method keeps its record, there are no fewer records. -/
theorem length_records_le {declared : List (ClassDecl × Method)}
    {fewer more : ClassDecl × Method → Option Record}
    (kept : ∀ site ∈ declared, (fewer site).isSome → (more site).isSome)
    : (declared.filterMap fewer).length ≤ (declared.filterMap more).length := by
  rw [List.length_filterMap_eq_countP, List.length_filterMap_eq_countP]
  exact List.countP_mono_left kept

-----------------------------------------------------------------------------------------
-- Roles and records under a larger catalog
-----------------------------------------------------------------------------------------

section Growth

variable {small large : Catalog} (within : small.Within large)

include within

theorem isGenerated_within (decl : ClassDecl)
    : isGenerated large decl = isGenerated small decl := by
  simp only [isGenerated, within.patterns]

theorem lists_within {role : Role} {name : Text} {kind : Kind}
    (listed : Lists small role name kind)
    : Lists large role name kind :=
  ⟨listed.1, within.names kind listed.2⟩

theorem isShown_within {decl : ClassDecl} (shown : isShown small decl = true)
    : isShown large decl = true := by
  rw [isShown_iff] at shown ⊢
  rcases shown with named | ⟨marker, listed, carried⟩
  · exact Or.inl (within.componentBases named)
  · exact Or.inr ⟨marker, within.markers listed, carried⟩

/-- A class that has a role keeps it, if it descends from an ability base under both catalogs or
under neither.
-/
theorem roleIn_within {program : Program} {decl : ClassDecl}
    (same
      : descendsFrom large.abilityBases program decl
        = descendsFrom small.abilityBases program decl)
    (given : roleIn program small decl ≠ .none)
    : roleIn program large decl = roleIn program small decl := by
  unfold roleIn at given ⊢
  rw [isGenerated_within within, same]
  cases generated : isGenerated small decl with
  | true => rfl
  | false =>
      cases descends : descendsFrom small.abilityBases program decl with
      | true => rfl
      | false =>
          cases shown : isShown small decl with
          | true => simp [isShown_within within shown]
          | false => simp [generated, descends, shown] at given

/-- A method keeps its record, if its class descends from an ability base under both catalogs or
under neither.
-/
theorem recordAt_within {program : Program} {declared : ClassDecl × Method}
    (same
      : descendsFrom large.abilityBases program declared.1
        = descendsFrom small.abilityBases program declared.1)
    (given : (recordAt program small declared).isSome)
    : (recordAt program large declared).isSome := by
  rw [recordAt_isSome_iff] at given ⊢
  obtain ⟨kind, listed⟩ := given
  have owned : roleIn program small declared.1 ≠ .none := by
    rw [← listed.1]
    cases kind <;> simp [Kind.role]
  exact ⟨kind, roleIn_within within same owned ▸ lists_within within listed⟩

end Growth

/-- A class that descends from one of some bases descends from one of more bases. -/
theorem descendsFrom_more {bases more : List Scalar} (added : bases ⊆ more) {program : Program}
    {decl : ClassDecl} (descends : descendsFrom bases program decl = true)
    : descendsFrom more program decl = true := by
  obtain ⟨ancestor, member, direct⟩ := List.any_eq_true.mp descends
  rw [extendsOne_iff] at direct
  exact List.any_eq_true.mpr ⟨ancestor, member, (extendsOne_iff _ _).mpr (added direct)⟩

-----------------------------------------------------------------------------------------
-- The built-in catalogs
-----------------------------------------------------------------------------------------

theorem minimal_within_framework : Catalog.minimal.Within .framework where
  names kind := by
    cases kind with
    | ability =>
        exact List.map_subset _ (by simp [Catalog.commonAbility, Catalog.allAbility])
    | component =>
        exact List.map_subset _ (by simp [Catalog.commonComponent, Catalog.allComponent])
    | callback => exact List.Subset.refl _
  componentBases := List.Subset.refl _
  markers := List.Subset.refl _
  patterns := rfl

theorem framework_within_events : Catalog.framework.Within .frameworkWithEvents where
  names kind := by
    cases kind with
    | callback => exact List.nil_subset _
    | _ => exact List.Subset.refl _
  componentBases := List.Subset.refl _
  markers := List.subset_append_left _ _
  patterns := rfl

/-- All built-in catalogs leave out the same generated classes, and name them by texts. -/
theorem versions_patterns {catalog : Catalog} (builtin : catalog ∈ Catalog.versions)
    : catalog.syntheticPatterns = Catalog.standard.syntheticPatterns := by
  simp only [Catalog.versions, List.mem_cons, List.not_mem_nil, or_false] at builtin
  rcases builtin with rfl | rfl | rfl <;> rfl

theorem versions_texts {catalog : Catalog} (builtin : catalog ∈ Catalog.versions)
    : catalog.PatternsAreTexts := by
  unfold Catalog.PatternsAreTexts
  rw [versions_patterns builtin]
  exact Catalog.standard_texts

theorem declarations_versions {catalog : Catalog} (builtin : catalog ∈ Catalog.versions)
    (skipTests : Bool) (files : List SourceFile)
    : declarations catalog skipTests files = declarations .standard skipTests files := by
  simp only [declarations, examined, isGenerated, versions_patterns builtin]

/-- The class descends from an ability base of the framework, but from none in common use. -/
def TakenOver (program : Program) (decl : ClassDecl) : Prop :=
  (∃ ancestor,
    program.AboveApart decl.name decl ancestor ∧ NamesAbility .framework ancestor)
  ∧ ¬ ∃ ancestor,
      program.AboveApart decl.name decl ancestor ∧ NamesAbility .minimal ancestor

theorem takenOver_iff {program : Program} (indexed : program.Indexed) (decl : ClassDecl)
    : TakenOver program decl
      ↔ descendsFrom Catalog.framework.abilityBases program decl = true
        ∧ descendsFrom Catalog.minimal.abilityBases program decl = false := by
  rw [TakenOver, ← descendsFrom_iff indexed, ← descendsFrom_iff indexed, Bool.not_eq_true]

/-- Of two descents, the one from the larger list of bases can only be added. -/
theorem descent_kept_or_takenOver {program : Program} (indexed : program.Indexed)
    (decl : ClassDecl)
    : descendsFrom Catalog.framework.abilityBases program decl
        = descendsFrom Catalog.minimal.abilityBases program decl
      ∨ TakenOver program decl := by
  rw [takenOver_iff indexed]
  have added : Catalog.minimal.abilityBases ⊆ Catalog.framework.abilityBases :=
    List.map_subset _ (by simp [Catalog.commonBases, Catalog.allBases])
  cases small : descendsFrom Catalog.minimal.abilityBases program decl with
  | true => exact Or.inl (descendsFrom_more added small)
  | false => simp

/-- No callback of components in common use is a callback of abilities. -/
theorem ability_not_component {name : Text}
    (component : .text name ∈ Catalog.minimal.names .component)
    : .text name ∉ Catalog.framework.names .ability := by
  intro ability
  have apart : ∀ written ∈ Catalog.commonComponent, written ∉ Catalog.allAbility := by
    simp [Catalog.commonComponent, Catalog.allAbility, Text.ofString_inj]
  have shown : name ∈ Catalog.commonComponent := by
    simpa [Catalog.minimal, Catalog.ofTexts] using component
  have started : name ∈ Catalog.allAbility := by
    simpa [Catalog.framework, Catalog.ofTexts] using ability
  exact apart name shown started

/-- A method of a class that is taken over loses its record.
Witness: under the smaller catalog the class is a UI component, so that its method has the name of
a component callback; under the larger one it is an entry container.
-/
theorem recordAt_takenOver {program : Program} (indexed : program.Indexed)
    {declared : ClassDecl × Method} (taken : TakenOver program declared.1)
    (given : (recordAt program .minimal declared).isSome)
    : (recordAt program .framework declared).isSome = false := by
  obtain ⟨descends, apart⟩ := (takenOver_iff indexed _).mp taken
  rw [recordAt_isSome_iff] at given
  obtain ⟨kind, owned, listed⟩ := given
  have examined : isGenerated .minimal declared.1 = false := by
    by_contra generated
    rw [roleIn, if_pos (by simpa using generated)] at owned
    cases kind <;> cases owned
  have contained : roleIn program .framework declared.1 = .entryContainer := by
    rw [roleIn, isGenerated_within minimal_within_framework, examined, descends]
    rfl
  rw [← Bool.not_eq_true, recordAt_isSome_iff, contained]
  rintro ⟨other, started, recorded⟩
  cases kind with
  | ability =>
      simp only [roleIn, examined, apart, Kind.role] at owned
      cases shown : isShown Catalog.minimal declared.1 <;> simp [shown] at owned
  | callback => cases listed
  | component =>
      cases other with
      | ability => exact ability_not_component listed recorded
      | component => cases started
      | callback => cases started

/-- From the catalog in common use to the one of the framework, a method keeps its record exactly if
its class is not taken over.
-/
theorem recordAt_framework_iff {program : Program} (indexed : program.Indexed)
    {declared : ClassDecl × Method} (given : (recordAt program .minimal declared).isSome)
    : (recordAt program .framework declared).isSome ↔ ¬ TakenOver program declared.1 := by
  constructor
  · intro kept taken
    rw [recordAt_takenOver indexed taken given] at kept
    cases kept
  · intro free
    rcases descent_kept_or_takenOver indexed declared.1 with same | taken
    · exact recordAt_within minimal_within_framework same given
    · exact absurd taken free

/-- The catalog with UI events keeps every record of the catalog of the framework, and that one
keeps every record of the catalog in common use but those of classes that are taken over.
-/
theorem identify_grows_iff {host : Host} (obliging : host.Obliging) (files : List SourceFile)
    (skipTests : Bool) (before : Session)
    : ∃ found : Catalog → Identification,
        (∀ catalog ∈ Catalog.versions,
          (outcome (identify host (.ofFiles files) catalog skipTests) before).1
            = .ok (found catalog)
          ∧ (found catalog).records
            = (declarations .standard skipTests (Program.ofFiles files).files).filterMap
                (recordAt (.ofFiles files) catalog))
        ∧ (∀ catalog declared record,
          recordAt (.ofFiles files) catalog declared = some record
          → record.className = declared.1.name ∧ record.method = some declared.2)
        ∧ (∀ declared,
          (recordAt (.ofFiles files) .minimal declared).isSome
          → ((recordAt (.ofFiles files) .framework declared).isSome
            ↔ ¬ TakenOver (.ofFiles files) declared.1))
        ∧ (∀ declared,
          (recordAt (.ofFiles files) .framework declared).isSome
          → (recordAt (.ofFiles files) .frameworkWithEvents declared).isSome)
        ∧ ((∀ declared ∈ declarations .standard skipTests (Program.ofFiles files).files,
            (recordAt (.ofFiles files) .minimal declared).isSome
            → ¬ TakenOver (.ofFiles files) declared.1)
          → (found .minimal).records.length ≤ (found .framework).records.length)
        ∧ (found .framework).records.length ≤ (found .frameworkWithEvents).records.length := by
  have indexed := Program.ofFiles_indexed files
  have told (catalog : Catalog) (builtin : catalog ∈ Catalog.versions)
      : ∃ found : Identification,
          (outcome (identify host (.ofFiles files) catalog skipTests) before).1 = .ok found
          ∧ found.records
            = (declarations .standard skipTests (Program.ofFiles files).files).filterMap
                (recordAt (.ofFiles files) catalog) := by
    obtain ⟨found, after, done, records⟩ :=
      identify_declarations obliging (.ofFiles files) (versions_texts builtin) skipTests before
    rw [declarations_versions builtin] at records
    exact ⟨found, by rw [done], records⟩
  choose! found told using told
  have minimal := (told .minimal (by simp [Catalog.versions])).2
  have framework := (told .framework (by simp [Catalog.versions])).2
  have withEvents := (told .frameworkWithEvents (by simp [Catalog.versions])).2
  have kept (declared : ClassDecl × Method)
      (given : (recordAt (.ofFiles files) .framework declared).isSome)
      : (recordAt (.ofFiles files) .frameworkWithEvents declared).isSome :=
    recordAt_within framework_within_events rfl given
  refine ⟨found, told, fun _ _ _ => recordAt_entity, ?_, kept, ?_, ?_⟩
  · intro declared given
    exact recordAt_framework_iff indexed given
  · intro free
    rw [minimal, framework]
    refine length_records_le fun declared member given => ?_
    exact (recordAt_framework_iff indexed given).mpr (free declared member given)
  · rw [framework, withEvents]
    exact length_records_le fun declared _ given => kept declared given

/-- (appear) is a callback in common use. -/
def appear : Method := ⟨"aboutToAppear", "Card", "appear", "a.ets", 1, 0, none⟩

/-- (card superclass) is a component that has this callback. -/
def card (superclass : Text) : ClassDecl :=
  ⟨"Card", "a.ets", superclass, ["Component"], [appear]⟩

/-- (cardOnly superclass) is the program that has this component only. -/
def cardOnly (superclass : Text) : Program :=
  .ofFiles [⟨"a.ets", [card superclass]⟩]

theorem declarations_cardOnly {catalog : Catalog} (builtin : catalog ∈ Catalog.versions)
    (superclass : Text)
    : declarations catalog true (cardOnly superclass).files = [(card superclass, appear)] := by
  rw [declarations_versions builtin]
  rfl

theorem ancestors_cardOnly {superclass : Text} (other : superclass ≠ "Card")
    : (cardOnly superclass).ancestors (card superclass) = [] := by
  have missing : (cardOnly superclass).superclass? (card superclass) = none := by
    have absent : (cardOnly superclass).class? superclass = none := by
      rw [cardOnly, Program.class?_ofFiles]
      change [card superclass].find? _ = none
      simp [card, other.symm]
    unfold Program.superclass?
    split
    · rfl
    · exact absent
  unfold Program.ancestors
  change (cardOnly superclass).ancestorsFrom ["Card"] 1 (card superclass) = []
  rw [Program.ancestorsFrom, missing]

/-- A card without a superclass keeps its callback, so that there are no fewer records. -/
theorem identify_grows_iff_card
    : Host.willing.Obliging
      ∧ ∃ found : Catalog → Identification,
          (∀ catalog ∈ Catalog.versions,
            (outcome (identify .willing (cardOnly "") catalog true) .fresh).1
              = .ok (found catalog))
          ∧ (recordAt (cardOnly "") .framework (card "", appear)).isSome
          ∧ (found .minimal).records.length ≤ (found .framework).records.length := by
  have obliging := Host.willing_denies_nothing
  have orphan : (cardOnly "").ancestors (card "") = [] := ancestors_cardOnly (by decide)
  have shown : roleIn (cardOnly "") .minimal (card "") = .uiComponent := by
    rw [roleIn, descendsFrom, orphan]
    rfl
  have free : ¬ TakenOver (cardOnly "") (card "") := by
    have indexed : (cardOnly "").Indexed := Program.ofFiles_indexed _
    rw [takenOver_iff indexed, descendsFrom, orphan]
    decide
  obtain ⟨found, told, -, kept, -, grown, -⟩ :=
    identify_grows_iff obliging [⟨"a.ets", [card ""]⟩] true .fresh
  refine ⟨obliging, found, fun catalog builtin => (told catalog builtin).1,
    (kept (card "", appear) ?_).mpr free, grown ?_⟩
  · change (recordAt (cardOnly "") .minimal (card "", appear)).isSome = true
    rw [recordAt, shown]
    rfl
  · intro declared member _
    rw [List.mem_singleton.mp member]
    exact free

/-- The catalog in common use finds the callback of a component that extends an ability base of the
framework, and the catalog of the framework misses it.
-/
theorem identify_card_lost
    : ∃ small large,
        (outcome (identify .willing (cardOnly "FormExtensionAbility") .minimal true) .fresh).1
          = .ok small
        ∧ (outcome (identify .willing (cardOnly "FormExtensionAbility") .framework true)
            .fresh).1
          = .ok large
        ∧ small.records.map Record.method = [some appear]
        ∧ large.records = [] := by
  have orphan
      : (cardOnly "FormExtensionAbility").ancestors (card "FormExtensionAbility") = [] :=
    ancestors_cardOnly (by decide)
  have shown
      : roleIn (cardOnly "FormExtensionAbility") .minimal (card "FormExtensionAbility")
        = .uiComponent := by
    rw [roleIn, descendsFrom, orphan]
    rfl
  have started
      : roleIn (cardOnly "FormExtensionAbility") .framework (card "FormExtensionAbility")
        = .entryContainer := by
    rw [roleIn, descendsFrom, orphan]
    rfl
  have minimal : Catalog.minimal ∈ Catalog.versions := by simp [Catalog.versions]
  have framework : Catalog.framework ∈ Catalog.versions := by simp [Catalog.versions]
  obtain ⟨small, _, done, few⟩ := identify_declarations Host.willing_denies_nothing
    (cardOnly "FormExtensionAbility") (versions_texts minimal) true .fresh
  obtain ⟨large, _, again, none⟩ := identify_declarations Host.willing_denies_nothing
    (cardOnly "FormExtensionAbility") (versions_texts framework) true .fresh
  rw [declarations_cardOnly minimal, List.filterMap_cons, recordAt, shown] at few
  rw [declarations_cardOnly framework, List.filterMap_cons, recordAt, started] at none
  refine ⟨small, large, by rw [done], by rw [again], ?_, ?_⟩
  · rw [few]
    rfl
  · rw [none]
    rfl

end Identification

end ArkLifecycle
