import ArkLifecycle.Catalog.Reader
import ArkLifecycle.Proofs.Json.Sameness
import ArkLifecycle.Proofs.Session.Inquiry
import Mathlib.Data.List.Nodup

/-! Catalogs list no name twice.

This holds of the built-in catalogs, and of all that are read from files, because repetitions are
dropped from the lists that are read.
-/

namespace ArkLifecycle

-----------------------------------------------------------------------------------------
-- Lists of names
-----------------------------------------------------------------------------------------

/-- Witness: a name that was kept is the same as itself, so it is not kept again. -/
theorem Scalar.distinct_nodup (names : List Scalar) : (Scalar.distinct names).Nodup := by
  have walk (rest kept : List Scalar) (unique : kept.Nodup)
      : (rest.foldl (fun kept name => if kept.any (same name) then kept else name :: kept)
          kept).Nodup := by
    induction rest generalizing kept with
    | nil => exact unique
    | cons name rest ih =>
        rw [List.foldl_cons]
        split
        · exact ih kept unique
        · next fresh =>
            refine ih _ (unique.cons fun known => fresh ?_)
            exact List.any_eq_true.mpr ⟨name, known, name.same_refl⟩
  rw [Scalar.distinct, List.nodup_reverse]
  exact walk names [] .nil

theorem Json.names_nodup {items : List Json} {names : List Scalar}
    (read : Json.names items = .ok names)
    : names.Nodup := by
  obtain ⟨scalars, -, same⟩ := bind_eq_ok read
  cases same
  exact Scalar.distinct_nodup scalars

/-- (Text.numeral text) is a number by which texts are quickly told apart. -/
def Text.numeral (text : Text) : Nat :=
  text.toList.foldl (fun number letter => 0x110000 * number + letter.code) 0

namespace Catalog

-----------------------------------------------------------------------------------------
-- Catalogs
-----------------------------------------------------------------------------------------

/-- The catalog lists no name twice among one kind. -/
def ListsOnce (catalog : Catalog) : Prop :=
  ∀ kind, (catalog.names kind).Nodup

theorem ofTexts_nodup {values : List Text} (apart : (values.map Text.numeral).Nodup)
    : (ofTexts values).Nodup :=
  apart.of_map.map fun _ _ same => Scalar.text.inj same

theorem versions_listOnce {catalog : Catalog} (member : catalog ∈ versions)
    : catalog.ListsOnce := by
  have common : (commonAbility.map Text.numeral).Nodup := by decide +kernel
  have abilities : (allAbility.map Text.numeral).Nodup := by decide +kernel
  have shown : (commonComponent.map Text.numeral).Nodup := by decide +kernel
  have components : (allComponent.map Text.numeral).Nodup := by decide +kernel
  have events : (uiEvents.map Text.numeral).Nodup := by decide +kernel
  intro kind
  simp only [versions, List.mem_cons, List.not_mem_nil, or_false] at member
  rcases member with rfl | rfl | rfl
  · cases kind with
    | ability => exact ofTexts_nodup common
    | component => exact ofTexts_nodup shown
    | callback => exact .nil
  · cases kind with
    | ability => exact ofTexts_nodup abilities
    | component => exact ofTexts_nodup components
    | callback => exact .nil
  · cases kind with
    | ability => exact ofTexts_nodup abilities
    | component => exact ofTexts_nodup components
    | callback => exact ofTexts_nodup events

/-- What a document holds from which a catalog is read: a version that is not empty, and lists of
callbacks, from which the names of every kind are taken.
Witness: the steps of the reader that a catalog passes through.
-/
theorem ofDocument_eq_ok {document : Json} {catalog : Catalog}
    (read : ofDocument document = .ok catalog)
    : ∃ version methods fields,
        document.fieldD "version" .null = .ok version
        ∧ version.truthy = true
        ∧ version.display = .ok catalog.version
        ∧ document.field? "methods" = .ok methods
        ∧ listedMethods methods = .ok fields
        ∧ ∀ kind,
            ∃ items,
              Json.itemsOrNone (Json.lookup fields kind.name) = .ok items
              ∧ Json.names items = .ok (catalog.names kind) := by
  obtain ⟨version, versioned, read⟩ := bind_eq_ok read
  dsimp only at read
  split at read
  · cases read
  · next truthy =>
      obtain ⟨methods, given, read⟩ := bind_eq_ok read
      obtain ⟨fields, listed, read⟩ := bind_eq_ok read
      -- The classification table comes before the lists, and what else is read after them.
      iterate 2 obtain ⟨_, -, read⟩ := bind_eq_ok read
      obtain ⟨abilities, started, read⟩ := bind_eq_ok read
      obtain ⟨components, shown, read⟩ := bind_eq_ok read
      obtain ⟨callbacks, called, read⟩ := bind_eq_ok read
      iterate 2 obtain ⟨_, -, read⟩ := bind_eq_ok read
      obtain ⟨written, displayed, read⟩ := bind_eq_ok read
      obtain ⟨_, -, read⟩ := bind_eq_ok read
      obtain ⟨abilityNames, ability, read⟩ := bind_eq_ok read
      obtain ⟨componentNames, component, read⟩ := bind_eq_ok read
      obtain ⟨callbackNames, callback, read⟩ := bind_eq_ok read
      iterate 7 obtain ⟨_, -, read⟩ := bind_eq_ok read
      cases read
      refine ⟨version, methods, fields, versioned, by simpa using truthy, displayed, given,
        listed, fun kind => ?_⟩
      cases kind with
      | ability => exact ⟨abilities, started, ability⟩
      | component => exact ⟨components, shown, component⟩
      | callback => exact ⟨callbacks, called, callback⟩

theorem ofDocument_listsOnce {document : Json} {catalog : Catalog}
    (read : ofDocument document = .ok catalog)
    : catalog.ListsOnce := by
  obtain ⟨_, _, _, -, -, -, -, -, named⟩ := ofDocument_eq_ok read
  intro kind
  obtain ⟨_, -, names⟩ := named kind
  exact Json.names_nodup names

/-- Every catalog that a reference means lists no name twice. -/
theorem resolve_listsOnce {tree : FileTree} {reference : Json} {catalog : Catalog}
    (resolved : resolve tree reference = .ok catalog)
    : catalog.ListsOnce := by
  unfold resolve at resolved
  split at resolved
  · cases resolved
    exact versions_listOnce (by simp [standard, versions])
  · split at resolved
    · split at resolved
      · next builtin found =>
          cases resolved
          exact versions_listOnce (List.mem_of_find?_eq_some found)
      · obtain ⟨_, -, read⟩ := bind_eq_ok resolved
        obtain ⟨document, -, read⟩ := bind_eq_ok read
        exact ofDocument_listsOnce read
    · obtain ⟨_, -, failed⟩ := bind_eq_ok resolved
      cases failed

end Catalog

end ArkLifecycle
