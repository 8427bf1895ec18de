import ArkLifecycle.Proofs.Json.Sameness

/-! Looking up fields after others were put or merged.

A lookup finds what was put last under the name, and else what was there before. In a mapping no two
fields have the same name, and this stays so whatever is put.
-/

namespace ArkLifecycle

/-- Being the same name is an equivalence. -/
class LawfulName (κ : Type) [Name κ] : Prop where
  equivalence : Equivalence fun first second : κ => Name.same first second = true

instance : LawfulName Text where
  equivalence := by
    simp only [Name.same, beq_iff_eq]
    exact eq_equivalence

instance : LawfulName Scalar where
  equivalence := by
    simp only [Name.same, Scalar.same_iff]
    exact ⟨fun _ => rfl, fun same => same.symm, fun first second => first.trans second⟩

namespace Json

variable {κ α : Type} [Name κ]

/-- No two of the fields have the same name. -/
def Apart (fields : List (κ × α)) : Prop :=
  fields.Pairwise fun first second => Name.same first.1 second.1 = false

theorem apart_nil : Apart ([] : List (κ × α)) :=
  .nil

/-- Whether two fields have the same name depends on the names only. -/
theorem Apart.of_names {β : Type} {fields : List (κ × α)} {others : List (κ × β)}
    (apart : Apart fields) (same : others.map Prod.fst = fields.map Prod.fst)
    : Apart others := by
  have names : (fields.map Prod.fst).Pairwise fun one other => Name.same one other = false :=
    List.pairwise_map.mpr apart
  rw [← same] at names
  exact List.pairwise_map.mp names

/-- Whatever is put, no two fields have the same name.
Witness: a field is added only if none has its name.
-/
theorem Apart.put {fields : List (κ × α)} (apart : Apart fields) (name : κ) (value : α)
    : Apart (put fields name value) := by
  unfold Json.put
  split
  · refine List.pairwise_map.mpr (apart.imp fun {first second} unlike => ?_)
    split <;> split <;> exact unlike
  · next absent =>
      rw [List.any_eq_true, not_exists] at absent
      refine List.pairwise_append.mpr ⟨apart, List.pairwise_singleton _ _, ?_⟩
      intro field member new added
      rw [List.mem_singleton.mp added]
      simpa [member] using absent field

theorem lookup_cons (field : κ × α) (rest : List (κ × α)) (name : κ)
    : lookup (field :: rest) name
      = if Name.same field.1 name then some field.2 else lookup rest name := by
  unfold lookup
  rw [List.find?_cons]
  cases Name.same field.1 name <;> rfl

theorem lookup_append (fields more : List (κ × α)) (name : κ)
    : lookup (fields ++ more) name = (lookup fields name).or (lookup more name) := by
  rw [lookup, lookup, lookup, List.find?_append, Option.map_or]

variable [LawfulName κ]

theorem same_comm (first second : κ) : Name.same first second = Name.same second first := by
  rw [Bool.eq_iff_iff]
  exact ⟨LawfulName.equivalence.symm, LawfulName.equivalence.symm⟩

theorem same_text_iff (written : Text) (name : Scalar)
    : Name.same (Scalar.text written) name = true ↔ name = .text written := by
  rw [same_comm]
  exact Scalar.same_text_iff name written

/-- Names that are the same are the same as one name or as no name. -/
theorem same_congr {first second : κ} (alike : Name.same first second = true) (name : κ)
    : Name.same first name = Name.same second name := by
  rw [Bool.eq_iff_iff]
  exact ⟨LawfulName.equivalence.trans (LawfulName.equivalence.symm alike),
    LawfulName.equivalence.trans alike⟩

theorem lookup_congr {first second : κ} (alike : Name.same first second = true)
    (fields : List (κ × α))
    : lookup fields first = lookup fields second := by
  have tests : (fun field : κ × α => Name.same field.1 first)
      = fun field => Name.same field.1 second := by
    funext field
    rw [same_comm, same_congr alike, same_comm]
  rw [lookup, lookup, tests]

/-- What was put is found under its name, every other name gives what it gave.
Witness: a field that is found keeps its name, and has the one that was put or not.
-/
theorem lookup_put (fields : List (κ × α)) (name other : κ) (value : α)
    : lookup (put fields name value) other
      = if Name.same name other then some value else lookup fields other := by
  have decided {field : κ × α} (found : Name.same field.1 other = true)
      : Name.same field.1 name = Name.same name other := by
    rw [same_congr found, same_comm]
  unfold put lookup
  split
  case isTrue present =>
    have kept
        : ((fun field : κ × α => Name.same field.1 other)
            ∘ fun field => if Name.same field.1 name then (field.1, value) else field)
          = fun field => Name.same field.1 other := by
      funext field
      simp only [Function.comp_apply]
      split <;> rfl
    rw [List.find?_map, kept]
    cases found : fields.find? fun field => Name.same field.1 other with
    | none =>
        obtain ⟨field, member, named⟩ := List.any_eq_true.mp present
        have missed := List.find?_eq_none.mp found field member
        rw [same_congr named] at missed
        simp [missed]
    | some field =>
        have named : Name.same field.1 other = true := by simpa using List.find?_some found
        have here := decided named
        cases asked : Name.same name other <;> simp [here, asked]
  case isFalse absent =>
    rw [List.find?_append]
    cases found : fields.find? fun field => Name.same field.1 other with
    | none => cases asked : Name.same name other <;> simp [asked]
    | some field =>
        have named : Name.same field.1 other = true := by simpa using List.find?_some found
        have here := decided named
        have unlike : Name.same field.1 name = false := by
          by_contra alike
          have member := List.mem_of_find?_eq_some found
          exact absent (List.any_eq_true.mpr ⟨field, member, by simpa using alike⟩)
        simp [← here, unlike]

/-- In a mapping a name has the value of the one field that is called so. -/
theorem Apart.lookup_eq_some_iff {fields : List (κ × α)} (apart : Apart fields) {name : κ}
    {value : α}
    : lookup fields name = some value
      ↔ ∃ field ∈ fields, Name.same field.1 name = true ∧ field.2 = value := by
  induction fields with
  | nil => simp [lookup]
  | cons field rest ih =>
      rw [lookup_cons, List.exists_mem_cons_iff]
      cases named : Name.same field.1 name with
      | true =>
          have later : ¬∃ other ∈ rest, Name.same other.1 name = true ∧ other.2 = value := by
            rintro ⟨other, member, alike, -⟩
            have unlike := List.rel_of_pairwise_cons apart member
            rw [same_congr named, same_comm, alike] at unlike
            cases unlike
          simp [later]
      | false => simp [ih (List.Pairwise.of_cons apart)]

/-- Where the first field has a name, no later one does. -/
theorem Apart.lookup_rest {field : κ × α} {rest : List (κ × α)} (apart : Apart (field :: rest))
    {name : κ} (named : Name.same field.1 name = true)
    : lookup rest name = none := by
  rw [lookup, Option.map_eq_none_iff, List.find?_eq_none]
  intro other member alike
  have unlike := List.rel_of_pairwise_cons apart member
  rw [same_congr named, same_comm, alike] at unlike
  cases unlike

/-- Of merged fields the later ones are found first.
Witness: induction over the later fields, no two of which have the same name.
-/
theorem lookup_merge (fields : List (κ × α)) {more : List (κ × α)} (apart : Apart more)
    (name : κ)
    : lookup (merge fields more) name = (lookup more name).or (lookup fields name) := by
  induction more generalizing fields with
  | nil => rfl
  | cons field rest ih =>
      have later : lookup (merge (put fields field.1 field.2) rest) name = _ :=
        ih _ (List.Pairwise.of_cons apart)
      rw [lookup_cons]
      refine later.trans ?_
      rw [lookup_put]
      cases named : Name.same field.1 name with
      | true => simp [apart.lookup_rest named]
      | false => simp

end Json

end ArkLifecycle
