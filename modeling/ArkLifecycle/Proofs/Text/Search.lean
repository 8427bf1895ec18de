import ArkLifecycle.Text.Search

/-! A search for a pattern holds exactly where the pattern occurs. -/

namespace ArkLifecycle.Text

/-- The letters of the pattern stand next to each other somewhere in the text. -/
def Occurs (pattern s : Text) : Prop :=
  pattern.toList <:+: s.toList

/-- The search goes through all places at which the pattern could begin.
Witness: induction over the letters; a pattern begins at the first one or occurs after it.
-/
theorem occursIn_iff (pattern letters : List Letter)
    : occursIn pattern letters = true ↔ pattern <:+: letters := by
  induction letters with
  | nil => simp [occursIn]
  | cons letter rest ih => simp [occursIn, ih, List.infix_cons_iff]

theorem contains_iff (s pattern : Text) : contains s pattern = true ↔ pattern.Occurs s :=
  occursIn_iff pattern.toList s.toList

instance (pattern s : Text) : Decidable (pattern.Occurs s) :=
  decidable_of_iff _ (contains_iff s pattern)

end ArkLifecycle.Text
