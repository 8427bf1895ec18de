import ArkLifecycle.Json.Access
import ArkLifecycle.Json.Datum
import ArkLifecycle.Json.Parser
import Mathlib.Data.List.TakeDrop
import Mathlib.Data.List.TakeWhile

/-! How large the numbers of a JSON text are.

Integers with too many digits cannot be shown, but neither can they be written: the reader refuses
them. Floating-point numbers end long before. So every number of a document that was read can be
shown as an integer.
-/

namespace ArkLifecycle

/-- (Showable n) holds of the integers that have few enough digits to be shown. -/
def Showable (n : Int) : Prop :=
  n.natAbs < Nat.pow 10 Fault.numeralLimit

instance : DecidablePred Showable :=
  fun n => inferInstanceAs (Decidable (n.natAbs < Nat.pow 10 Fault.numeralLimit))

/-- An integer that can be shown is shown by its digits. -/
theorem Showable.ofInt_eq {n : Int} (showable : Showable n)
    : Text.ofInt n = .ok (toString n) := by
  have few : n.natAbs < Nat.pow 10 Fault.numeralLimit := showable
  rw [Text.ofInt, if_pos few]
  cases n with
  | ofNat m =>
      rw [if_neg (by simp)]
      simp [Text.ofNat, Text.ofString, toString, Int.repr, Nat.repr]
  | negSucc m =>
      rw [if_pos (Int.negSucc_lt_zero m)]
      simp only [Text.ofNat, Text.ofString, toString, Int.repr, Nat.repr, String.toList_append,
        String.toList_ofList]
      rfl

/-- Other integers are not shown. -/
theorem ofInt_of_not_showable {n : Int} (long : ¬Showable n)
    : Text.ofInt n = .error .integerTooLongToShow :=
  if_neg long

-----------------------------------------------------------------------------------------
-- Floating-point numbers
-----------------------------------------------------------------------------------------

namespace Binary64

theorem divideHalfEven_le (a b : Nat) : divideHalfEven a b ≤ a / b + 1 := by
  unfold divideHalfEven
  dsimp only
  split
  · omega
  · split <;> omega

/-- A quotient that is scaled by about its own size is small. -/
theorem scaled_le {a b : Nat} (positive : b ≠ 0) {exponent : Int}
    (high : (a.log2 : Int) ≤ b.log2 + exponent + 53)
    : scaled a b exponent ≤ Nat.pow 2 54 := by
  have above : a < Nat.pow 2 (a.log2 + 1) := Nat.lt_log2_self
  have below : Nat.pow 2 b.log2 ≤ b := Nat.log2_self_le positive
  unfold scaled
  split
  · next nonneg =>
      refine Nat.le_trans (divideHalfEven_le _ _) (Nat.div_lt_of_lt_mul ?_)
      calc a
        _ < Nat.pow 2 (a.log2 + 1) := above
        _ ≤ Nat.pow 2 (b.log2 + exponent.toNat + 54) :=
          Nat.pow_le_pow_right (by decide) (by omega)
        _ = Nat.pow 2 b.log2 * Nat.pow 2 exponent.toNat * Nat.pow 2 54 :=
          (Nat.pow_add 2 _ 54).trans (congrArg (· * Nat.pow 2 54) (Nat.pow_add 2 _ _))
        _ ≤ b * Nat.pow 2 exponent.toNat * Nat.pow 2 54 :=
          Nat.mul_le_mul_right _ (Nat.mul_le_mul_right _ below)
  · next negative =>
      refine Nat.le_trans (divideHalfEven_le _ _) (Nat.div_lt_of_lt_mul ?_)
      calc a * Nat.pow 2 (-exponent).toNat
        _ < Nat.pow 2 (a.log2 + 1) * Nat.pow 2 (-exponent).toNat :=
          Nat.mul_lt_mul_of_pos_right above (Nat.two_pow_pos _)
        _ = Nat.pow 2 (a.log2 + 1 + (-exponent).toNat) := (Nat.pow_add 2 _ _).symm
        _ ≤ Nat.pow 2 (b.log2 + 54) := Nat.pow_le_pow_right (by decide) (by omega)
        _ = Nat.pow 2 b.log2 * Nat.pow 2 54 := Nat.pow_add 2 _ 54
        _ ≤ b * Nat.pow 2 54 := Nat.mul_le_mul_right _ below

/-- A finite number of the format has a small mantissa and a small exponent. -/
def Moderate (x : Binary64) : Prop :=
  ∀ negative mantissa exponent,
    x = .finite negative mantissa exponent
    → mantissa ≤ Nat.pow 2 54 ∧ exponent ≤ greatestExponent

theorem moderate_zero (negative : Bool) : Moderate (.finite negative 0 leastExponent) := by
  rintro _ _ _ ⟨⟩
  decide

theorem moderate_rounded (negative : Bool) {mantissa : Nat}
    (small : mantissa ≤ Nat.pow 2 54) (exponent : Int)
    : Moderate
        (if greatestExponent < exponent then .infinity negative
          else .finite negative mantissa exponent) := by
  intro _ _ _ same
  split at same
  · cases same
  · next low =>
      cases same
      exact ⟨small, Int.not_lt.mp low⟩

theorem moderate_ofRatio (negative : Bool) (a b : Nat) : Moderate (ofRatio negative a b) := by
  unfold ofRatio
  split
  · exact moderate_zero negative
  · next nonzero =>
      have positive : b ≠ 0 := fun zero => nonzero (Or.inr zero)
      dsimp only
      -- The scale is that of the quotient, or one less where the quotient begins below it.
      generalize reached
        : max ((if reaches a b (a.log2 - b.log2) then (a.log2 - b.log2 : Int)
            else a.log2 - b.log2 - 1) - 52) leastExponent = exponent
      have high : (a.log2 : Int) ≤ b.log2 + exponent + 53 := by
        split at reached <;> omega
      have half : Nat.pow 2 52 ≤ Nat.pow 2 54 := by decide
      split
      · exact moderate_rounded negative half _
      · exact moderate_rounded negative (scaled_le positive high) _

theorem moderate_ofDecimal (negative : Bool) (digits : Nat) (power : Int)
    : Moderate (ofDecimal negative digits power) := by
  unfold ofDecimal
  split
  · exact moderate_zero negative
  · dsimp only
    split
    · rintro _ _ _ ⟨⟩
    · split
      · exact moderate_zero negative
      · split
        · exact moderate_ofRatio negative _ _
        · exact moderate_ofRatio negative _ _

theorem whole_le {mantissa : Nat} (small : mantissa ≤ Nat.pow 2 54) {exponent : Int}
    {most : Nat} (low : exponent ≤ most)
    : (fraction mantissa exponent).1 / (fraction mantissa exponent).2
      ≤ Nat.pow 2 (54 + most) := by
  unfold fraction
  split
  · next nonneg =>
      calc mantissa * Nat.pow 2 exponent.toNat / 1
        _ = mantissa * Nat.pow 2 exponent.toNat := Nat.div_one _
        _ ≤ Nat.pow 2 54 * Nat.pow 2 most :=
          Nat.mul_le_mul small (Nat.pow_le_pow_right (by decide) (by omega))
        _ = Nat.pow 2 (54 + most) := (Nat.pow_add 2 54 most).symm
  · calc mantissa / Nat.pow 2 (-exponent).toNat
      _ ≤ mantissa := Nat.div_le_self _ _
      _ ≤ Nat.pow 2 54 := small
      _ ≤ Nat.pow 2 (54 + most) := Nat.pow_le_pow_right (by decide) (Nat.le_add_right 54 most)

theorem pow_two_lt_pow_ten {few many : Nat} (less : few < many)
    : Nat.pow 2 few < Nat.pow 10 many :=
  Nat.lt_of_le_of_lt (Nat.pow_le_pow_left (by decide) few)
    (Nat.pow_lt_pow_right (by decide) less)

/-- Without its fractional digits, such a number can be shown. -/
theorem Moderate.showable {x : Binary64} (moderate : Moderate x) {whole : Int}
    (cut : x.truncate? = some whole)
    : Showable whole := by
  cases x with
  | nan payload => cases cut
  | infinity negative => cases cut
  | finite negative mantissa exponent =>
      obtain ⟨small, low⟩ := moderate negative mantissa exponent rfl
      have same
          : whole.natAbs = (fraction mantissa exponent).1 / (fraction mantissa exponent).2 := by
        simp only [truncate?, Option.some.injEq] at cut
        rw [← cut]
        cases negative <;> simp only [Bool.false_eq_true, if_true, if_false, Int.natAbs_neg,
          Int.natAbs_natCast]
      have bounded
          : (fraction mantissa exponent).1 / (fraction mantissa exponent).2
            ≤ Nat.pow 2 (54 + greatestExponent.toNat) :=
        whole_le small low
      rw [Showable, same]
      exact Nat.lt_of_le_of_lt bounded (pow_two_lt_pow_ten (by decide))

end Binary64

-----------------------------------------------------------------------------------------
-- Documents
-----------------------------------------------------------------------------------------

/-- (Scalar.Moderate value) holds of all scalars but numbers that are too large to be shown. -/
def Scalar.Moderate : Scalar → Prop
  | .int n => Showable n
  | .float x => x.Moderate
  | _ => True

namespace Json

/-- All numbers in the document can be shown. -/
inductive Moderate : Json → Prop where
  | scalar {value : Scalar} (moderate : value.Moderate) : Moderate (.scalar value)
  | array {items : List Json} (each : ∀ item ∈ items, Moderate item) : Moderate (.array items)
  | object {fields : Fields} (each : ∀ field ∈ fields, Moderate field.2)
      : Moderate (.object fields)

theorem digitsValue_lt {cs : List Char} (digits : ∀ c ∈ cs, c.isDigit = true) {limit : Nat}
    (few : cs.length ≤ limit)
    : digitsValue cs < Nat.pow 10 limit := by
  -- What was read before counts as so many digits more.
  have walk (value : Nat)
      : cs.foldl (fun value c => 10 * value + (c.toNat - 0x30)) value
        < (value + 1) * Nat.pow 10 cs.length := by
    clear few
    induction cs generalizing value with
    | nil => simp
    | cons c rest ih =>
        have digit : c.toNat - 0x30 ≤ 9 := by
          have within := digits c List.mem_cons_self
          simp only [Char.isDigit, Bool.and_eq_true, decide_eq_true_eq] at within
          have highest : c.toNat ≤ 57 := UInt32.le_iff_toNat_le.mp within.2
          omega
        have rested := ih (fun c member => digits c (List.mem_cons_of_mem _ member))
          (10 * value + (c.toNat - 0x30))
        calc (c :: rest).foldl (fun value c => 10 * value + (c.toNat - 0x30)) value
          _ < (10 * value + (c.toNat - 0x30) + 1) * Nat.pow 10 rest.length := rested
          _ ≤ (value + 1) * 10 * Nat.pow 10 rest.length := Nat.mul_le_mul_right _ (by omega)
          _ = (value + 1) * (Nat.pow 10 rest.length * 10) := by
            rw [Nat.mul_assoc, Nat.mul_comm 10]
  calc digitsValue cs
    _ < (0 + 1) * Nat.pow 10 cs.length := walk 0
    _ = Nat.pow 10 cs.length := by rw [Nat.zero_add, Nat.one_mul]
    _ ≤ Nat.pow 10 limit := Nat.pow_le_pow_right (by decide) few

theorem readWhole_digits {cs whole rest : List Char} (read : readWhole cs = some (whole, rest))
    : ∀ c ∈ whole, c.isDigit = true := by
  unfold readWhole at read
  split at read
  · cases read
    intro c member
    rw [List.mem_singleton.mp member]
    rfl
  · split at read
    · cases read
    · rw [List.span_eq_takeWhile_dropWhile] at read
      cases read
      intro c member
      exact List.mem_takeWhile_imp member

theorem readMagnitude_moderate {negative : Bool} {cs rest : List Char} {v : Json}
    (read : readMagnitude negative cs = .ok (v, rest))
    : v.Moderate := by
  unfold readMagnitude at read
  cases given : readWhole cs with
  | none =>
      rw [given] at read
      cases read
  | some written =>
      rw [given] at read
      dsimp only at read
      split at read
      · split at read
        · cases read
        · next few =>
            cases read
            have short := digitsValue_lt (readWhole_digits given) (Nat.not_lt.mp few)
            refine .scalar ?_
            cases negative with
            | false => exact short
            | true =>
                rw [if_pos rfl, Scalar.Moderate, Showable, Int.natAbs_neg]
                exact short
      · cases read
        exact .scalar (Binary64.moderate_ofDecimal _ _ _)

theorem readPlain_moderate {cs rest : List Char} {v : Json} (read : readPlain cs = .ok (v, rest))
    : v.Moderate := by
  unfold readPlain at read
  split at read
  · cases read
    exact .scalar trivial
  · cases read
    exact .scalar trivial
  · cases read
    exact .scalar trivial
  · cases read
    exact .scalar (by rintro _ _ _ ⟨⟩)
  · cases read
    exact .scalar (by rintro _ _ _ ⟨⟩)
  · cases read
    exact .scalar (by rintro _ _ _ ⟨⟩)
  · exact readMagnitude_moderate read
  · exact readMagnitude_moderate read

/-- Putting a field adds or replaces one value and keeps the others. -/
theorem mem_put {κ α : Type} [Name κ] {fields : List (κ × α)} {name : κ} {value : α}
    {field : κ × α} (member : field ∈ put fields name value)
    : field ∈ fields ∨ field.2 = value := by
  unfold put at member
  split at member
  · obtain ⟨old, listed, rfl⟩ := List.mem_map.mp member
    split
    · exact Or.inr rfl
    · exact Or.inl listed
  · rcases List.mem_append.mp member with before | new
    · exact Or.inl before
    · rw [List.mem_singleton.mp new]
      exact Or.inr rfl

/-- Whatever is read has only numbers that can be shown.
Witness: induction on the fuel, for the three readers that call each other.
-/
theorem read_moderate (fuel : Nat)
    : (∀ room cs v rest, readValue fuel room cs = .ok (v, rest) → v.Moderate)
      ∧ (∀ room done cs v rest,
          (∀ item ∈ done, Moderate item)
          → readItems fuel room done cs = .ok (v, rest)
          → v.Moderate)
      ∧ (∀ room done cs v rest,
          (∀ field ∈ done, Moderate field.2)
          → readFields fuel room done cs = .ok (v, rest)
          → v.Moderate) := by
  induction fuel with
  | zero =>
      refine ⟨?_, ?_, ?_⟩
      · intro room cs v rest read
        cases read
      · intro room done cs v rest each read
        cases read
      · intro room done cs v rest each read
        cases read
  | succ fuel ih =>
      obtain ⟨values, items, fields⟩ := ih
      refine ⟨?_, ?_, ?_⟩
      · intro room cs v rest read
        unfold readValue at read
        split at read
        · split at read
          · cases read
          · cases read
            exact .scalar trivial
        · split at read
          · cases read
          · cases read
            exact .array (by simp)
          · exact items _ _ _ _ _ (by simp) read
        · split at read
          · cases read
          · cases read
            exact .object (by simp)
          · exact fields _ _ _ _ _ (by simp) read
        · exact readPlain_moderate read
      · intro room done cs v rest each read
        unfold readItems at read
        split at read
        · cases read
        · next item more value =>
            have together : ∀ part ∈ item :: done, Moderate part :=
              List.forall_mem_cons.mpr ⟨values _ _ _ _ value, each⟩
            split at read
            · exact items _ _ _ _ _ together read
            · cases read
              exact .array fun part member => together part (List.mem_reverse.mp member)
            · cases read
      · intro room done cs v rest each read
        unfold readFields at read
        split at read
        · split at read
          · cases read
          · split at read
            · split at read
              · cases read
              · next value more given =>
                  have together (name : Scalar)
                      : ∀ field ∈ put done name value, field.2.Moderate := by
                    intro field member
                    rcases mem_put member with before | new
                    · exact each field before
                    · exact new ▸ values _ _ _ _ given
                  split at read
                  · exact fields _ _ _ _ _ (together _) read
                  · cases read
                    exact .object (together _)
                  · cases read
            · cases read
        · cases read

/-- All numbers of a document that was read can be shown. -/
theorem parse_moderate {written : String} {document : Json}
    (parsed : parse written = .ok document)
    : document.Moderate := by
  unfold parse at parsed
  dsimp only at parsed
  split at parsed
  · next value rest read =>
      split at parsed
      · cases parsed
        exact (read_moderate _).1 _ _ _ _ read
      · cases parsed
  · cases parsed

end Json

end ArkLifecycle
