import ArkLifecycle.Json.Access
import ArkLifecycle.Proofs.Json.Fields
import Mathlib.Data.List.Forall2

/-! Documents in which no mapping names a field twice.

When this holds of the layers of a document, it holds of the document that is assembled from them,
and of all documents that are met on the way.
-/

namespace ArkLifecycle

/-- What is known at the places of an array is as stated. -/
def Known {α : Type} (holds : α → Prop) (known : Array (Option α)) : Prop :=
  ∀ place value, known.getD place none = some value → holds value

theorem known_nothing {α β : Type} (holds : α → Prop) (places : Array β)
    : Known holds (places.map fun _ => none) := by
  intro place value found
  rw [Array.getD_eq_getD_getElem?, Array.getElem?_map] at found
  cases here : places[place]? <;> simp [here] at found

theorem Known.set {α : Type} {holds : α → Prop} {known : Array (Option α)}
    (all : Known holds known) {value : α} (good : holds value) (place : Nat)
    : Known holds (known.setIfInBounds place (some value)) := by
  intro other found here
  rw [Array.getD_eq_getD_getElem?, Array.getElem?_setIfInBounds] at here
  split at here
  · split at here
    · cases here
      exact good
    · cases here
  · rw [← Array.getD_eq_getD_getElem?] at here
    exact all other found here

/-- A mapping in the layer names no field twice. -/
def Layer.Orderly : Layer → Prop
  | .object fields => Json.Apart fields
  | _ => True

namespace Json

/-- No mapping in the document names a field twice. -/
inductive Orderly : Json → Prop
  | scalar (value : Scalar) : Orderly (.scalar value)
  | array {items : List Json} (each : ∀ item ∈ items, Orderly item) : Orderly (.array items)
  | object {fields : Fields} (apart : Apart fields) (each : ∀ field ∈ fields, Orderly field.2)
    : Orderly (.object fields)
  | pair {first second : Json} (left : Orderly first) (right : Orderly second)
    : Orderly (.pair first second)
  | set (members : List Scalar) : Orderly (.set members)
  | cyclic {layers : Array Layer} {place : Nat}
    (each : ∀ place, (Layer.ofPlace layers place).Orderly)
    : Orderly (.cyclic layers place)
  | again (shape : Shape) : Orderly (.again shape)

theorem Orderly.ofPair {first second : Json} (left : first.Orderly) (right : second.Orderly)
    : (ofPair first second).Orderly := by
  unfold Json.ofPair
  split
  · exact .scalar _
  · exact .pair left right

-----------------------------------------------------------------------------------------
-- Assembling documents
-----------------------------------------------------------------------------------------

/-- All documents that were seen are orderly. -/
def Seen.Orderly (seen : Seen) : Prop :=
  Known Json.Orderly seen

/-- The task leaves orderly documents behind if it finds such, and what it gives is as stated. -/
def Settles {α : Type} (task : StateM Seen α) (holds : α → Prop) : Prop :=
  ∀ seen, Seen.Orderly seen → Seen.Orderly (task.run seen).2 ∧ holds (task.run seen).1

variable {α β : Type}

theorem Settles.pure {value : α} {holds : α → Prop} (good : holds value)
    : Settles (Pure.pure value) holds :=
  fun _ orderly => ⟨orderly, good⟩

theorem Settles.bind {task : StateM Seen α} {next : α → StateM Seen β} {holds : α → Prop}
    {results : β → Prop} (first : Settles task holds)
    (later : ∀ value, holds value → Settles (next value) results)
    : Settles (task >>= next) results := by
  intro seen orderly
  obtain ⟨kept, good⟩ := first seen orderly
  exact later _ good _ kept

/-- Witness: induction over the items. -/
theorem Settles.mapM {step : α → StateM Seen β} {holds : α → β → Prop}
    (each : ∀ item, Settles (step item) (holds item)) (items : List α)
    : Settles (items.mapM step) (List.Forall₂ holds items) := by
  induction items with
  | nil => exact .pure .nil
  | cons item rest ih =>
      rw [List.mapM_cons]
      exact (each item).bind fun result good => ih.bind fun results all => .pure (.cons good all)

/-- A layer becomes an orderly document when its parts do.
Witness: the document of a mapping has the names of the layer.
-/
theorem Settles.assemble {part : Nat → StateM Seen Json}
    (parts : ∀ place, Settles (part place) Orderly) {layer : Layer} (orderly : layer.Orderly)
    : Settles (layer.assemble part) Orderly := by
  cases layer with
  | scalar value => exact .pure (.scalar value)
  | array items =>
      refine (Settles.mapM parts items).bind fun results all => .pure (.array fun item member => ?_)
      obtain ⟨_, -, good⟩ := exists_item_of_forall₂ all member
      exact good
  | object fields =>
      have each (field : Scalar × Nat)
          : Settles (do return (field.1, ← part field.2))
              (fun result : Scalar × Json => result.1 = field.1 ∧ result.2.Orderly) :=
        (parts field.2).bind fun v good => .pure ⟨rfl, good⟩
      refine (Settles.mapM each fields).bind fun results all => .pure (.object ?_ ?_)
      · exact orderly.of_names (map_eq_of_forall₂ (fun _ _ good => good.1.symm) all).symm
      · intro field member
        obtain ⟨_, -, good⟩ := exists_item_of_forall₂ all member
        exact good.2
  | pairs listed =>
      have each (pair : Nat × Nat)
          : Settles
              (do
                let first ← part pair.1
                return .ofPair first (← part pair.2))
              Orderly :=
        (parts pair.1).bind fun first left =>
          (parts pair.2).bind fun second right => .pure (left.ofPair right)
      refine (Settles.mapM each listed).bind fun results all => .pure (.array fun item member => ?_)
      obtain ⟨_, -, good⟩ := exists_item_of_forall₂ all member
      exact good
  | set members => exact .pure (.set members)

/-- The documents of orderly layers are orderly.
Witness: induction on the fuel; a place that is met again is a document of the same layers.
-/
theorem Settles.settle {layers : Array Layer} (each : ∀ place, (Layer.ofPlace layers place).Orderly)
    (fuel place : Nat)
    : Settles (settle fuel layers place) Orderly := by
  induction fuel generalizing place with
  | zero => exact .pure (.cyclic each)
  | succ fuel ih =>
      have mark {v : Json} (good : v.Orderly)
          : Settles (modify fun seen : Seen => seen.setIfInBounds place (some v)) fun _ => True :=
        fun seen orderly => ⟨Known.set orderly good place, trivial⟩
      have look : Settles (get : StateM Seen Seen) Seen.Orderly :=
        fun seen orderly => ⟨orderly, orderly⟩
      unfold Json.settle
      refine look.bind fun seen orderly => ?_
      split
      · next known found => exact .pure (orderly place known found)
      · refine (mark (.cyclic each)).bind fun _ _ => ?_
        refine (Settles.assemble ih (each place)).bind fun v good => ?_
        split
        · exact .pure (.cyclic each)
        · exact (mark good).bind fun _ _ => .pure good

theorem ofLayers_orderly {layers : Array Layer}
    (each : ∀ place, (Layer.ofPlace layers place).Orderly) (place : Nat)
    : (ofLayers layers place).Orderly :=
  (Settles.settle each _ place _ (known_nothing _ layers)).2

theorem Orderly.opened {v : Json} (orderly : v.Orderly) : v.opened.Orderly := by
  cases orderly with
  | @cyclic layers place each =>
      exact (Settles.assemble (Settles.settle each _) (each place) _ (known_nothing _ layers)).2
  | scalar value => exact .scalar value
  | array each => exact .array each
  | object apart each => exact .object apart each
  | pair left right => exact .pair left right
  | set members => exact .set members
  | again shape => exact .again shape

/-- The fields of an orderly mapping have different names, and are orderly themselves. -/
theorem Orderly.fields {v : Json} (orderly : v.Orderly) {fields : Fields}
    (mapping : v.fields? = some fields)
    : Apart fields ∧ ∀ field ∈ fields, field.2.Orderly := by
  unfold fields? at mapping
  split at mapping
  · next opened =>
      cases mapping
      have whole := orderly.opened
      rw [opened] at whole
      cases whole with
      | object apart each => exact ⟨apart, each⟩
  · cases mapping

end Json

end ArkLifecycle
