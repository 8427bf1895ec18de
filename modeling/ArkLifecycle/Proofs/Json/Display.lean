import ArkLifecycle.Json.Display
import ArkLifecycle.Proofs.Session.Inquiry

/-! What is shown of a document is never empty, unless the document is the empty text.

Everything but a text begins with a bracket, a word or a digit when it is shown.
-/

namespace ArkLifecycle

-----------------------------------------------------------------------------------------
-- Texts with a letter
-----------------------------------------------------------------------------------------

@[simp]
theorem Text.isEmpty_append (s t : Text) : (s ++ t).isEmpty = (s.isEmpty && t.isEmpty) := by
  change (s.toList ++ t.toList).isEmpty = _
  cases written : s.toList <;> simp [Text.isEmpty, written]

@[simp]
theorem Text.isEmpty_ofString (s : String) : (Text.ofString s).isEmpty = s.toList.isEmpty := by
  simp [Text.isEmpty, Text.ofString, Text.ofChars]

theorem Text.isEmpty_ofNat (n : Nat) : (Text.ofNat n).isEmpty = false := by
  simp [Text.isEmpty, Text.ofNat, Text.ofChars, Nat.toDigits_ne_nil]

-----------------------------------------------------------------------------------------
-- Numbers
-----------------------------------------------------------------------------------------

namespace Binary64

/-- A decimal is written by at least one letter, as its digits are. -/
theorem decimalText_ne_nil (c : Nat) (k : Int) : decimalText c k ≠ [] := by
  unfold decimalText
  dsimp only
  split
  · split
    · simp
    · split <;> simp
  · split
    · next none => exact absurd none Nat.toDigits_ne_nil
    · simp
    · simp

theorem isEmpty_shortestText (x : Binary64) : (Text.ofString x.shortestText).isEmpty = false := by
  rw [Text.isEmpty_ofString]
  cases x with
  | nan payload => simp [shortestText]
  | infinity negative => cases negative <;> simp [shortestText]
  | finite negative mantissa exponent =>
      have magnitude : magnitudeText mantissa exponent ≠ [] := by
        unfold magnitudeText
        split
        · simp
        · exact decimalText_ne_nil _ _
      simp [shortestText, magnitude]

end Binary64

theorem Text.isEmpty_ofInt {n : Int} {shown : Text} (done : Text.ofInt n = .ok shown)
    : shown.isEmpty = false := by
  unfold Text.ofInt at done
  split at done
  · cases done
    split <;> simp [Text.isEmpty_ofNat]
  · cases done

-----------------------------------------------------------------------------------------
-- Documents
-----------------------------------------------------------------------------------------

theorem Scalar.isEmpty_quoted {value : Scalar} {shown : Text} (done : value.quoted = .ok shown)
    : shown.isEmpty = false := by
  cases value with
  | null => cases done; rfl
  | bool value => cases value <;> cases done <;> rfl
  | int value => exact Text.isEmpty_ofInt done
  | float value => cases done; exact value.isEmpty_shortestText
  | text value => cases done; rfl
  | bytes value => cases done; rfl
  | date value => cases done; simp [Date.quoted]
  | moment value => cases done; simp [Moment.quoted]
  | pair first second =>
      obtain ⟨_, -, done⟩ := bind_eq_ok done
      obtain ⟨_, -, done⟩ := bind_eq_ok done
      cases done
      simp

namespace Json

theorem isEmpty_dots (shape : Shape) : (dots shape).isEmpty = false := by
  cases shape <;> rfl

theorem isEmpty_quotedTree {v : Json} {shown : Text} (done : v.quotedTree = .ok shown)
    : shown.isEmpty = false := by
  cases v with
  | scalar value =>
      rw [quotedTree] at done
      exact Scalar.isEmpty_quoted done
  | array items =>
      rw [quotedTree] at done
      obtain ⟨_, -, done⟩ := bind_eq_ok done
      cases done
      simp
  | object fields =>
      rw [quotedTree] at done
      obtain ⟨_, -, done⟩ := bind_eq_ok done
      cases done
      simp
  | pair first second =>
      rw [quotedTree] at done
      obtain ⟨_, -, done⟩ := bind_eq_ok done
      obtain ⟨_, -, done⟩ := bind_eq_ok done
      cases done
      simp
  | set members =>
      cases members with
      | nil => cases done; rfl
      | cons first rest =>
          rw [quotedTree] at done
          · obtain ⟨_, -, done⟩ := bind_eq_ok done
            cases done
            simp
          · simp
  | cyclic layers place => cases done; exact isEmpty_dots _
  | again shape => cases done; exact isEmpty_dots _

/-- A document that is not empty in any sense is shown by at least one letter. -/
theorem isEmpty_display {v : Json} (truthy : v.truthy = true) {shown : Text}
    (done : v.display = .ok shown)
    : shown.isEmpty = false := by
  unfold display at done
  split at done
  · cases done
    simpa [Json.truthy, Scalar.truthy] using truthy
  · rw [← Except.ok.inj done]
    simp [Date.display]
  · rw [← Except.ok.inj done]
    simp [Moment.display, Date.display]
  · exact isEmpty_quotedTree done

end Json

end ArkLifecycle
