import ArkLifecycle.Json.Display
import ArkLifecycle.Json.Same

/-! Values that stand in records and can be written and shown.

What an analysis finds is made of texts and integers. Records that are written by hand may hold any
document in their place. Not every value can be shown: an integer may have too many digits.
-/

namespace ArkLifecycle

/-- Values that are written as documents and shown as texts. -/
class Datum (α : Type) where
  toJson : α → Json
  shown : α → Except Fault Text

/-- (Datum.label value) shows a value; one that cannot be shown has no text. -/
def Datum.label {α : Type} [Datum α] (value : α) : Text :=
  match Datum.shown value with
  | .ok text => text
  | .error _ => ""

/-- A text is shown as it is. -/
instance : Datum Text := ⟨Json.text, .ok⟩

/-- An integer is shown by its digits. -/
instance : Datum Int := ⟨Json.int, Text.ofInt⟩

/-- A document is written as it is. -/
instance : Datum Json := ⟨id, Json.display⟩

theorem Datum.shown_text (s : Text) : Datum.shown s = .ok s :=
  rfl

theorem Datum.shown_int (n : Int) : Datum.shown n = Text.ofInt n :=
  rfl

end ArkLifecycle
