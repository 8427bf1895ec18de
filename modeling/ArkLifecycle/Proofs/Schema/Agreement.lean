import ArkLifecycle.Schema.Basic

/-! What it means that a document agrees with a schema.

A check lists what is wrong and where. Whether it finds anything does not depend on where the
document stands, and can be said rule by rule.
-/

namespace ArkLifecycle.Schema

mutual

/-- (Agrees v rule) holds when a document is as a rule asks. -/
def Agrees (v : Json) : Rule → Prop
  | .type allowed => ∃ type ∈ allowed, type.admits v = true
  | .typeAmong asked schema => checkTypes v schema asked = []
  | .required names =>
      ∀ fields, v = .object fields → ∀ name ∈ names, (Json.lookup fields name).isSome
  | .properties rules => ∀ fields, v = .object fields → AgreeFields fields rules
  | .items rules => ∀ items, v = .array items → ∀ item ∈ items, AgreesAll item rules
  | .noItems => ∀ items, v = .array items → items = []
  | .minimum bound =>
      ∀ value,
        v = .scalar value
        → TypeName.number.admits v = true
        → ∃ least, bound = .scalar least ∧ isBound bound = true ∧ isBelow value least = false
  | .oneOf options => AgreesOnce v options
  | .never => False
  | .broken type _ => ∃ asked ∈ type, asked.admits v = false

/-- (AgreesAll v rules) holds when a document is as all rules ask. -/
def AgreesAll (v : Json) : List Rule → Prop
  | [] => True
  | rule :: rest => Agrees v rule ∧ AgreesAll v rest

/-- (AgreeFields fields rules) holds when the fields that are there are as their rules ask. -/
def AgreeFields (fields : Json.Fields) : List (Text × List Rule) → Prop
  | [] => True
  | (name, rules) :: rest =>
      (∀ value, Json.lookup fields name = some value → AgreesAll value rules)
      ∧ AgreeFields fields rest

/-- (AgreesOnce v options) holds when a document agrees with one of several schemas only. -/
def AgreesOnce (v : Json) : List (List Rule) → Prop
  | [] => False
  | rules :: rest =>
      AgreesAll v rules ∧ AgreesNever v rest ∨ ¬ AgreesAll v rules ∧ AgreesOnce v rest

/-- (AgreesNever v options) holds when a document agrees with none of several schemas. -/
def AgreesNever (v : Json) : List (List Rule) → Prop
  | [] => True
  | rules :: rest => ¬ AgreesAll v rules ∧ AgreesNever v rest

end

theorem checkBound_eq_nil_iff (path : List Text) (value : Scalar) (bound : Json)
    : checkBound path value bound = []
      ↔ ∃ least, bound = .scalar least ∧ isBound bound = true ∧ isBelow value least = false := by
  cases bound with
  | scalar least =>
      cases known : isBound (.scalar least) <;> cases below : isBelow value least <;>
        simp [checkBound, known, below]
  | _ => simp [checkBound]

mutual

/-- A check of a rule finds nothing exactly if the document agrees. -/
theorem check_eq_nil_iff (path : List Text) (v : Json)
    : ∀ rule, check path v rule = [] ↔ Agrees v rule
  | .type allowed => by
      simp [check, Agrees]
  | .typeAmong asked schema => by
      simp [check, Agrees]
  | .required names => by
      cases v <;> simp [check, Agrees, List.filter_eq_nil_iff, Option.isSome_iff_ne_none]
  | .properties rules => by
      cases v <;> simp [check, Agrees, checkFields_eq_nil_iff path _ rules]
  | .items rules => by
      cases v with
      | array items =>
          have each (item : Json) (index : Nat) :=
            checkAll_eq_nil_iff (.ofNat index :: path) item rules
          simp only [check, Agrees, List.flatMap_eq_nil_iff, Prod.forall, each, Json.array.injEq,
            forall_eq']
          constructor
          · intro agree item member
            obtain ⟨index, inside, rfl⟩ := List.mem_iff_getElem.mp member
            exact agree _ index (List.mk_mem_zipIdx_iff_getElem?.mpr (by simp [inside]))
          · intro agree item index member
            exact agree item (List.fst_mem_of_mem_zipIdx member)
      | _ => simp [check, Agrees]
  | .noItems => by
      cases v with
      | array items => cases items <;> simp [check, Agrees]
      | _ => simp [check, Agrees]
  | .minimum bound => by
      cases v with
      | scalar value =>
          have bounded := checkBound_eq_nil_iff path value bound
          cases number : TypeName.number.admits (.scalar value) <;>
            simp [check, Agrees, number, bounded]
      | _ => simp [check, Agrees]
  | .oneOf options => by
      have counted := countAccepting_iff v options
      simp [check, Agrees, counted.2]
  | .never => by
      simp [check, Agrees]
  | .broken type fault => by
      cases type <;> simp [check, Agrees]

/-- A check of all rules finds nothing exactly if the document agrees with all of them. -/
theorem checkAll_eq_nil_iff (path : List Text) (v : Json)
    : ∀ rules, checkAll path v rules = [] ↔ AgreesAll v rules
  | [] => by simp [checkAll, AgreesAll]
  | rule :: rest => by
      rw [checkAll, AgreesAll, List.append_eq_nil_iff, check_eq_nil_iff path v rule,
        checkAll_eq_nil_iff path v rest]

theorem checkFields_eq_nil_iff (path : List Text) (fields : Json.Fields)
    : ∀ rules, checkFields path fields rules = [] ↔ AgreeFields fields rules
  | [] => by simp [checkFields, AgreeFields]
  | (name, rules) :: rest => by
      rw [checkFields, AgreeFields, List.append_eq_nil_iff,
        checkFields_eq_nil_iff path fields rest]
      cases Json.lookup fields name with
      | none => simp
      | some value => simp [checkAll_eq_nil_iff (name :: path) value rules]

theorem countAccepting_iff (v : Json)
    : ∀ options,
        (countAccepting v options = 0 ↔ AgreesNever v options)
        ∧ (countAccepting v options = 1 ↔ AgreesOnce v options)
  | [] => by simp [countAccepting, AgreesNever, AgreesOnce]
  | rules :: rest => by
      have first := checkAll_eq_nil_iff [] v rules
      obtain ⟨none, once⟩ := countAccepting_iff v rest
      simp only [countAccepting, AgreesNever, AgreesOnce, ← first, ← none, ← once,
        List.isEmpty_iff]
      split <;> simp_all

end

theorem violationsIn_eq_ok_nil {findings : List Finding} (none : violationsIn findings = .ok [])
    : findings = [] := by
  cases findings with
  | nil => rfl
  | cons finding rest =>
      cases finding with
      | fault fault => cases none
      | violation violation =>
          unfold violationsIn at none
          cases more : violationsIn rest <;> rw [more] at none <;> cases none

/-- A validation succeeds exactly if the document agrees with all rules of the schema. -/
theorem validate_ok_iff (name : Text) (schema : Schema) (v : Json)
    : validate name schema v = .ok () ↔ AgreesAll v schema := by
  rw [← checkAll_eq_nil_iff []]
  unfold validate violations
  constructor
  · intro valid
    cases told : violationsIn (checkAll [] v schema) with
    | error fault =>
        rw [told] at valid
        cases valid
    | ok found =>
        have length
            : (found.mergeSort fun a b => pathLe a.path b.path).length = found.length :=
          List.length_mergeSort found
        simp only [told, bind, Except.bind, pure, Except.pure] at valid
        generalize (found.mergeSort fun a b => pathLe a.path b.path) = sorted at valid length
        cases sorted with
        | nil =>
            rw [List.length_eq_zero_iff.mp length.symm] at told
            exact violationsIn_eq_ok_nil told
        | cons first rest => cases valid
  · intro nothing
    simp [nothing, violationsIn, bind, Except.bind, pure, Except.pure]

end ArkLifecycle.Schema
