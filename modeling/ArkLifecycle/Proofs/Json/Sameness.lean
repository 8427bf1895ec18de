import ArkLifecycle.Proofs.Program.Fidelity
import Mathlib.Algebra.Order.Field.Basic
import Mathlib.Data.Rat.Cast.Order

/-! When two names are the same.

Numbers are the same when they have one value, whatever their shape, and moments when they are one
point in time. So every name stands for something, and two names are the same exactly if they stand
for the same. It follows that being the same is an equivalence.
-/

namespace ArkLifecycle

-----------------------------------------------------------------------------------------
-- Numbers by their values
-----------------------------------------------------------------------------------------

namespace Binary64

/-- (ratio negative mantissa exponent) is the value of a finite number. -/
def ratio (negative : Bool) (mantissa : Nat) (exponent : Int) : Rat :=
  (signedFraction negative mantissa exponent).1 / (signedFraction negative mantissa exponent).2

/-- (value? x) is the value of a number that is finite. -/
def value? : Binary64 → Option Rat
  | .finite negative mantissa exponent => some (ratio negative mantissa exponent)
  | _ => none

theorem signedFraction_pos (negative : Bool) (mantissa : Nat) (exponent : Int)
    : 0 < ((signedFraction negative mantissa exponent).2 : Rat) :=
  Nat.cast_pos.mpr (fraction_pos mantissa exponent)

/-- A number is the same as an integer if that is its value. -/
theorem eqInt_iff_value (x : Binary64) (n : Int)
    : x.eqInt n = true ↔ x.value? = some (n : Rat) := by
  cases x with
  | nan payload => simp [eqInt, leInt, value?]
  | infinity negative => cases negative <;> simp [eqInt, leInt, ltInt, value?]
  | finite negative mantissa exponent =>
      have told
          : (Binary64.finite negative mantissa exponent).eqInt n = true
            ↔ (signedFraction negative mantissa exponent).1
              = n * (signedFraction negative mantissa exponent).2 := by
        simp only [eqInt, leInt, ltInt, signedFraction, Bool.and_eq_true, Bool.not_eq_true',
          decide_eq_true_eq, decide_eq_false_iff_not]
        rw [not_lt, ← le_antisymm_iff]
      rw [told, value?, Option.some_inj, ratio,
        div_eq_iff (signedFraction_pos negative mantissa exponent).ne']
      exact_mod_cast Iff.rfl

/-- One finite number is less than another one if its value is. -/
theorem lt_finite_iff (n m e n' m' e')
    : (Binary64.finite n m e).lt (.finite n' m' e') = true ↔ ratio n m e < ratio n' m' e' := by
  simp only [lt, decide_eq_true_eq]
  rw [ratio, ratio, div_lt_div_iff₀ (signedFraction_pos n m e) (signedFraction_pos n' m' e')]
  exact_mod_cast Iff.rfl

/-- Finite numbers are the same if they have one value, others only if they are equal. -/
theorem sameNumber_iff (x y : Binary64)
    : x.sameNumber y = true ↔ x = y ∨ ∃ value, x.value? = some value ∧ y.value? = some value := by
  cases x with
  | nan payload => simp [sameNumber, value?, isDefined]
  | infinity negative =>
      cases y with
      | nan payload => simp [sameNumber, value?, isDefined]
      | infinity other => cases negative <;> cases other <;> simp [sameNumber, value?, lt]
      | finite n m e => cases negative <;> simp [sameNumber, value?, lt]
  | finite n m e =>
      cases y with
      | nan payload => simp [sameNumber, value?, isDefined]
      | infinity other => cases other <;> simp [sameNumber, value?, lt]
      | finite n' m' e' =>
          simp only [sameNumber, value?, isDefined, Bool.or_eq_true, Bool.and_eq_true, beq_iff_eq,
            Bool.not_eq_true', and_true, Bool.eq_false_iff, ne_eq, lt_finite_iff, not_lt,
            Option.some_inj]
          refine or_congr_right ⟨fun between => ?_, fun same => ?_⟩
          · exact ⟨_, le_antisymm between.2 between.1, rfl⟩
          · obtain ⟨value, first, second⟩ := same
            rw [first, second]
            exact ⟨le_rfl, le_rfl⟩

end Binary64

-----------------------------------------------------------------------------------------
-- What a name stands for
-----------------------------------------------------------------------------------------

/-- (Binary64.size x) is the value of a number, the number itself when it has none. -/
def Binary64.size (x : Binary64) : Rat ⊕ Binary64 :=
  x.value?.elim (.inr x) .inl

theorem Binary64.size_eq_inl_iff {x : Binary64} {value : Rat}
    : x.size = .inl value ↔ x.value? = some value := by
  unfold size
  cases x.value? <;> simp

/-- Numbers are the same or equal exactly if they have one size. -/
theorem Binary64.size_eq_iff (x y : Binary64)
    : x.sameNumber y = true ∨ x = y ↔ x.size = y.size := by
  rw [sameNumber_iff]
  constructor
  · rintro ((rfl | ⟨value, first, second⟩) | rfl)
    · rfl
    · rw [size_eq_inl_iff.mpr first, size_eq_inl_iff.mpr second]
    · rfl
  · intro sized
    cases given : y.value? with
    | some value =>
        rw [size_eq_inl_iff.mpr given, size_eq_inl_iff] at sized
        exact .inl (.inr ⟨value, sized, rfl⟩)
    | none =>
        have own : y.size = .inr y := by simp [size, given]
        rw [own] at sized
        unfold size at sized
        cases known : x.value? <;> simp_all

/-- What a name stands for: a number, a point in time by a clock that is known or not, a pair of
such things, or nothing but itself.
-/
inductive Referent where
  | number (size : Rat ⊕ Binary64)
  | time (known : Bool) (micros : Int)
  | pair (first second : Referent)
  | itself (name : Scalar)

namespace Scalar

/-- (referent name) is what a name stands for. -/
def referent : Scalar → Referent
  | .bool value => .number (.inl ((if value then 1 else 0 : Int) : Rat))
  | .int value => .number (.inl value)
  | .float value => .number value.size
  | .moment value =>
      .time value.ahead.isSome (value.micros - value.ahead.getD 0 * 1000000)
  | .pair first second => .pair first.referent second.referent
  | name => .itself name

/-- Two names are the same exactly if they stand for the same.
Witness: induction over pairs; all other names are compared by their shapes.
-/
theorem same_iff (s t : Scalar) : s.same t = true ↔ s.referent = t.referent := by
  have sized (x : Binary64) (n : Int) : x.eqInt n = true ↔ x.size = .inl (n : Rat) :=
    (x.eqInt_iff_value n).trans Binary64.size_eq_inl_iff.symm
  have turned (x : Binary64) (n : Int) : x.eqInt n = true ↔ .inl (n : Rat) = x.size :=
    (sized x n).trans eq_comm
  have zero (n : Int) : (0 : Rat) = n ↔ 0 = n := by exact_mod_cast Iff.rfl
  have one (n : Int) : (1 : Rat) = n ↔ 1 = n := by exact_mod_cast Iff.rfl
  induction s generalizing t with
  | pair a b first second => cases t <;> simp [same, sameNumber, asInt?, referent, first, second]
  | bool value =>
      cases value <;> cases t with
      | bool other => cases other <;> simp [same, sameNumber, asInt?, referent]
      | int n => simp [same, sameNumber, asInt?, referent, zero, one]
      | float x => simp [same, sameNumber, asInt?, referent, turned]
      | _ => simp [same, sameNumber, asInt?, referent]
  | int n =>
      cases t with
      | bool other => cases other <;> simp [same, sameNumber, asInt?, referent]
      | float x => simp [same, sameNumber, asInt?, referent, turned]
      | _ => simp [same, sameNumber, asInt?, referent]
  | float x =>
      cases t with
      | bool other => cases other <;> simp [same, sameNumber, asInt?, referent, sized]
      | int n => simp [same, sameNumber, asInt?, referent, sized]
      | float y => simp [same, sameNumber, asInt?, referent, Binary64.size_eq_iff]
      | _ => simp [same, sameNumber, asInt?, referent]
  | moment m =>
      cases t with
      | moment n =>
          simp only [same, referent, Referent.time.injEq, Moment.same]
          cases m.ahead <;> cases n.ahead <;> simp
      | _ => simp [same, sameNumber, asInt?, referent]
  | _ => cases t <;> simp [same, sameNumber, asInt?, referent]

theorem same_refl (name : Scalar) : name.same name = true :=
  (same_iff name name).mpr rfl

/-- Only a text is the same name as a text. -/
theorem same_text_iff (name : Scalar) (written : Text)
    : name.same (.text written) = true ↔ name = .text written := by
  cases name <;> simp [same, sameNumber, asInt?]

-----------------------------------------------------------------------------------------
-- Names without repetitions
-----------------------------------------------------------------------------------------

/-- The kept names are those of a list, in order, each at the place where it first stands. -/
inductive FirstsOf : List Scalar → List Scalar → Prop
  | nil : FirstsOf [] []
  | cons {name rest kept} (others : FirstsOf (rest.filter fun other => !other.same name) kept)
    : FirstsOf (name :: rest) (name :: kept)

/-- Dropping repetitions keeps every name where it first stands.
Witness: induction over the names that are left, of which only those are kept that were not met.
-/
theorem distinct_firstsOf (names : List Scalar) : FirstsOf names (distinct names) := by
  have walk (rest met : List Scalar)
      : ∃ kept,
          rest.foldl (fun kept name => if kept.any (same name) then kept else name :: kept) met
            = kept.reverse ++ met
          ∧ FirstsOf (rest.filter fun name => !met.any name.same) kept := by
    induction rest generalizing met with
    | nil => exact ⟨[], rfl, .nil⟩
    | cons name rest ih =>
        rw [List.foldl_cons, List.filter_cons]
        cases known : met.any (same name) with
        | true => simpa using ih met
        | false =>
            obtain ⟨kept, folded, firsts⟩ := ih (name :: met)
            refine ⟨name :: kept, by simpa using folded, ?_⟩
            simp only [Bool.not_false, if_true]
            refine .cons ?_
            rw [List.filter_filter]
            simpa [List.any_cons, Bool.not_or] using firsts
  obtain ⟨kept, folded, firsts⟩ := walk names []
  have all : (names.filter fun name => !List.any [] name.same) = names := by simp
  rw [all] at firsts
  rw [distinct, folded]
  simpa using firsts

/-- A text of the list is kept.
Witness: induction over the list; only the text itself can stand in its place.
-/
theorem FirstsOf.text_mem {listed kept : List Scalar} (firsts : FirstsOf listed kept)
    {written : Text} (member : .text written ∈ listed)
    : .text written ∈ kept := by
  induction firsts with
  | nil => cases member
  | @cons name rest kept _ ih =>
      by_cases here : name = .text written
      · exact here ▸ List.mem_cons_self
      · have later : .text written ∈ rest := (List.mem_cons.mp member).resolve_left (Ne.symm here)
        refine List.mem_cons_of_mem _ (ih (List.mem_filter.mpr ⟨later, ?_⟩))
        rw [Bool.not_eq_true', Bool.eq_false_iff]
        intro same
        rw [same_iff, eq_comm, ← same_iff, same_text_iff] at same
        exact here same

theorem FirstsOf.eq_nil_iff {listed kept : List Scalar} (firsts : FirstsOf listed kept)
    : kept = [] ↔ listed = [] := by
  cases firsts <;> simp

end Scalar

end ArkLifecycle
