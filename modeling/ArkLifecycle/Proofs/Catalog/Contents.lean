import ArkLifecycle.Proofs.Catalog.Names
import ArkLifecycle.Proofs.Identification.Exactness
import ArkLifecycle.Proofs.Json.Display

/-! What a catalog that was read from a file holds.

Its version is not empty, and every kind of callback has the names that the file lists for it, each
once. A file is refused when all of its lists are empty, whatever they are called. So a catalog can
be read that recognizes nothing: its file lists callbacks under other names than those of the kinds.
-/

namespace ArkLifecycle

/-- Reading all items as names and dropping repetitions keeps the names where they first stand. -/
theorem Json.names_eq_ok {items : List Json} {names : List Scalar}
    (read : Json.names items = .ok names)
    : ∃ listed,
        List.Forall₂ (fun item name => item.name? = .ok name) items listed
        ∧ Scalar.FirstsOf listed names := by
  obtain ⟨listed, all, same⟩ := bind_eq_ok read
  cases same
  exact ⟨listed, mapM_eq_ok all, Scalar.distinct_firstsOf listed⟩

namespace Catalog

/-- The document is a mapping with these lists of callbacks. -/
def ListedIn (document : Json) (methods : Json.Fields) : Prop :=
  ∃ value, document.field? "methods" = .ok (some value) ∧ value.fields? = some methods

/-- The items are those that the lists of callbacks have for a kind. -/
def ItemsFor (methods : Json.Fields) (kind : Kind) (items : List Json) : Prop :=
  Json.itemsOrNone (Json.lookup methods kind.name) = .ok items

/-- The catalog holds what some lists of callbacks give for its kinds. It recognizes a name exactly
if an item stands in one of the lists that are named for a kind.
-/
structure Holds (methods : Json.Fields) (catalog : Catalog) : Prop where
  version : catalog.version.isEmpty = false
  names
    : ∀ kind,
        ∃ items listed,
          ItemsFor methods kind items
          ∧ List.Forall₂ (fun item name => item.name? = .ok name) items listed
          ∧ Scalar.FirstsOf listed (catalog.names kind)
  recognizes
    : ∀ kind name, catalog.recognizes kind (.text name) = true ↔ .text name ∈ catalog.names kind
  kinds
    : ∀ role,
        (catalog.kindsFor role).Sublist Kind.all
        ∧ ∀ kind, kind ∈ catalog.kindsFor role ↔ kind.role = role ∧ catalog.names kind ≠ []
  some_iff
    : (∃ kind, catalog.names kind ≠ [])
      ↔ ∃ kind items, ItemsFor methods kind items ∧ items ≠ []

/-- A catalog that was read from a file holds what the file lists.
Witness: the items of a kind decide whether it has a name, as every item gives one.
-/
theorem load_recognizes_iff {tree : FileTree} {path : Path} {catalog : Catalog}
    (loaded : load tree path = .ok catalog)
    : ∃ text document methods,
        tree.read path = .ok text
        ∧ readDocument path text = .ok document
        ∧ ListedIn document methods
        ∧ catalog.Holds methods := by
  obtain ⟨text, opened, loaded⟩ := bind_eq_ok loaded
  obtain ⟨document, parsed, read⟩ := bind_eq_ok loaded
  obtain ⟨version, given, methods, -, truthy, displayed, found, listed, named⟩ :=
    ofDocument_eq_ok read
  have lists : ListedIn document methods := by
    unfold listedMethods at listed
    split at listed
    · next fields mapping =>
        split at listed
        · cases listed
          obtain ⟨value, rfl, fields⟩ := Option.bind_eq_some_iff.mp mapping
          exact ⟨value, found, fields⟩
        · cases listed
    · cases listed
  have names (kind : Kind)
      : ∃ items listed,
          ItemsFor methods kind items
          ∧ List.Forall₂ (fun item name => item.name? = .ok name) items listed
          ∧ Scalar.FirstsOf listed (catalog.names kind) := by
    obtain ⟨items, listed, kept⟩ := named kind
    obtain ⟨scalars, all, firsts⟩ := Json.names_eq_ok kept
    exact ⟨items, scalars, listed, all, firsts⟩
  refine ⟨text, document, methods, opened, parsed, lists, Json.isEmpty_display truthy displayed,
    names, catalog.recognizes_iff, fun role => ⟨List.filter_sublist, fun kind => ?_⟩, ?_⟩
  · simp [kindsFor, kind.mem_all]
  · have named_iff (kind : Kind) {items : List Json} (inside : ItemsFor methods kind items)
        : catalog.names kind ≠ [] ↔ items ≠ [] := by
      obtain ⟨others, scalars, also, all, firsts⟩ := names kind
      cases inside.symm.trans also
      rw [Ne, firsts.eq_nil_iff, ← List.length_eq_zero_iff, ← all.length_eq,
        List.length_eq_zero_iff]
    constructor
    · rintro ⟨kind, some⟩
      obtain ⟨items, -, inside, -⟩ := names kind
      exact ⟨kind, items, inside, (named_iff kind inside).mp some⟩
    · rintro ⟨kind, items, inside, some⟩
      exact ⟨kind, (named_iff kind inside).mpr some⟩

/-- (holding text) is the tree whose only file is a catalog. -/
def holding (text : String) : FileTree :=
  ⟨[([Text.ofString "catalog.json"], .file text)]⟩

/-- (namesIn loaded) are the names of all kinds, when there is a catalog. -/
def namesIn (loaded : Except Fault Catalog) : Option (List (List Scalar)) :=
  loaded.toOption.map fun catalog => Kind.all.map catalog.names

theorem exists_of_namesIn {loaded : Except Fault Catalog} {names : List (List Scalar)}
    (told : namesIn loaded = some names)
    : ∃ catalog, loaded = .ok catalog ∧ Kind.all.map catalog.names = names := by
  cases loaded with
  | error fault => cases told
  | ok catalog => exact ⟨catalog, rfl, Option.some.inj told⟩

/-- (repeating) lists a callback twice, and another one under a name that is no kind. -/
def repeating : String :=
  "\x7b\"version\": \"own\", \"methods\": \x7b\"ability\": [\"onCreate\", \"onDestroy\", "
    ++ "\"onCreate\"], \"abilities\": [\"onShow\"]\x7d\x7d"

/-- A callback that is listed twice is held once, and one that is listed for no kind is not. -/
theorem load_recognizes_iff_repeating
    : ∃ catalog document methods,
        load (holding repeating) (.ofText "catalog.json") = .ok catalog
        ∧ Kind.all.map catalog.names = [[.text "onCreate", .text "onDestroy"], [], []]
        ∧ ListedIn document methods
        ∧ catalog.Holds methods := by
  have told : namesIn (load (holding repeating) (.ofText "catalog.json"))
      = some [[.text "onCreate", .text "onDestroy"], [], []] := by
    decide +kernel
  obtain ⟨catalog, loaded, names⟩ := exists_of_namesIn told
  obtain ⟨text, document, methods, -, -, listed, holds⟩ := load_recognizes_iff loaded
  exact ⟨catalog, document, methods, loaded, names, listed, holds⟩

/-- A catalog whose only list is named for no kind is read, and has no name at all. -/
theorem load_misspelt
    : ∃ catalog,
        load
            (holding
              "\x7b\"version\": \"x\", \"methods\": \x7b\"abilities\": [\"onCreate\"]\x7d\x7d")
            (.ofText "catalog.json")
          = .ok catalog
        ∧ ∀ kind, catalog.names kind = [] := by
  have told : namesIn (load
      (holding "\x7b\"version\": \"x\", \"methods\": \x7b\"abilities\": [\"onCreate\"]\x7d\x7d")
      (.ofText "catalog.json")) = some [[], [], []] := by
    decide +kernel
  obtain ⟨catalog, loaded, names⟩ := exists_of_namesIn told
  refine ⟨catalog, loaded, fun kind => ?_⟩
  simp only [Kind.all, List.map_cons, List.cons.injEq] at names
  cases kind with
  | ability => exact names.1
  | component => exact names.2.1
  | callback => exact names.2.2.1

end Catalog

end ArkLifecycle
