import ArkLifecycle.Proofs.Invocation.Loose
import ArkLifecycle.Proofs.Invocation.Strict
import ArkLifecycle.Proofs.Text.Search

/-! The targets of invocations.

A text names what its first strict reading names, and where it has none, the word of its first loose
reading. The label of an invocation is never empty, whether it names a target or not.
-/

namespace ArkLifecycle.Invocation

/-- The name of a target that is read in a text: strictly, or loosely if there is no strict reading.
-/
inductive Names (text : Text) : Text → Prop
  | strictly (reading : StrictReading text) : reading.IsFirst → Names text reading.target
  | loosely (reading : LooseReading text)
    : IsEmpty (StrictReading text) → reading.IsFirst → Names text reading.word

variable {text name : Text}

-----------------------------------------------------------------------------------------
-- Targets
-----------------------------------------------------------------------------------------

/-- Where a text does not read strictly, its loose reading counts. -/
theorem target?_eq_called? (unread : IsEmpty (StrictReading text))
    : target? text = called? text := by
  rw [target?, strict?_eq_none_iff.mpr unread]

/-- The target of a text is the name that is read in it.
Witness: a first strict reading is told from its target, and a first loose one from its word.
-/
theorem target?_eq_some_iff : target? text = some name ↔ Names text name := by
  cases found : strict? text.toList with
  | some letters =>
      obtain ⟨reading, leads, same⟩ :=
        strict?_eq_some_iff.mp (found : _ = some (Text.ofList letters).toList)
      simp only [target?, found, same, Option.some.injEq]
      constructor
      · rintro rfl
        exact .strictly reading leads
      · rintro (⟨other, also⟩ | ⟨-, unread, -⟩)
        · exact leads.target_eq also
        · exact unread.elim reading
  | none =>
      have unread := strict?_eq_none_iff.mp found
      rw [target?_eq_called? unread, called?_eq_some_iff]
      constructor
      · rintro ⟨reading, leads, rfl⟩
        exact .loosely reading unread leads
      · rintro (⟨other, -⟩ | ⟨reading, -, leads⟩)
        · exact unread.elim other
        · exact ⟨reading, leads, rfl⟩

theorem target?_eq_none_iff
    : target? text = none ↔ IsEmpty (StrictReading text) ∧ IsEmpty (LooseReading text) := by
  rw [← strict?_eq_none_iff, ← called?_eq_none_iff, target?]
  cases strict? text.toList <;> simp

-----------------------------------------------------------------------------------------
-- Labels
-----------------------------------------------------------------------------------------

/-- One of the markers of invocations occurs in the text. -/
def IsMarked (text : Text) : Prop :=
  ∃ marker ∈ markers, marker.Occurs text

theorem isInvocation_iff : isInvocation text = true ↔ IsMarked text := by
  simp [isInvocation, IsMarked, Text.contains_iff]

instance (text : Text) : Decidable (IsMarked text) :=
  decidable_of_iff _ isInvocation_iff

theorem Names.ne_empty (names : Names text name) : name ≠ "" := by
  intro none
  have letters := Text.eq_iff_toList.mp none
  cases names with
  | strictly reading _ =>
      simp [StrictReading.target, Text.ofString, Text.ofChars] at letters
  | loosely reading _ _ => exact reading.word_some none

/-- The label of a marked text is not empty. Witness: it is a name, or the beginning of the text,
which is not empty itself, as a marker occurs in it.
-/
theorem label_ne_empty (marked : IsMarked text) : label text ≠ "" := by
  cases found : target? text with
  | some name =>
      rw [label, found]
      exact (target?_eq_some_iff.mp found).ne_empty
  | none =>
      rw [label, found]
      intro none
      have cut := Text.eq_iff_toList.mp none
      have blank : ("" : Text).toList = [] := rfl
      have empty : text = "" := by
        rw [Text.eq_iff_toList, blank]
        simpa [Text.takeText, labelLimit, blank] using cut
      rw [empty] at marked
      exact absurd marked (by decide)

-----------------------------------------------------------------------------------------
-- The reading of a text
-----------------------------------------------------------------------------------------

/-- Among nested calls the one that is closed first is named.
Witness: some reading is closed no later than the call, and the first one no later than that.
-/
theorem exists_closedFirst (unread : IsEmpty (StrictReading text)) {left call right : Text}
    (written : text = left ++ call ++ right) (is_call : IsCall call)
    : ∃ reading : LooseReading text,
        reading.IsFirst
        ∧ target? text = some reading.word
        ∧ reading.closed.length ≤ (left ++ call).length := by
  obtain ⟨inmost, closed⟩ := LooseReading.exists_closed written is_call
  cases found : called? text with
  | none => exact (called?_eq_none_iff.mp found).elim inmost
  | some name =>
      obtain ⟨reading, leads, rfl⟩ := called?_eq_some_iff.mp found
      refine ⟨reading, leads, ?_, (LooseReading.closed_le (leads inmost)).trans closed⟩
      rw [target?_eq_called? unread, found]

/-- A text has the target that is read in it, and no target only if nothing is read in it. Where it
does not read strictly, no call in it is closed before the one that is named. A text that is marked
as an invocation always has a label.
-/
theorem target?_reads (text : Text)
    : (∀ name, target? text = some name ↔ Names text name)
      ∧ (target? text = none ↔ IsEmpty (StrictReading text) ∧ IsEmpty (LooseReading text))
      ∧ (IsEmpty (StrictReading text)
        → ∀ left call right,
            text = left ++ call ++ right
            → IsCall call
            → ∃ reading : LooseReading text,
                reading.IsFirst
                ∧ target? text = some reading.word
                ∧ reading.closed.length ≤ (left ++ call).length)
      ∧ (IsMarked text → label text ≠ "") :=
  ⟨fun _ => target?_eq_some_iff, target?_eq_none_iff,
    fun unread _ _ _ written is_call => exists_closedFirst unread written is_call, label_ne_empty⟩

/-- Of two calls in a text, one among the arguments of the other, the inner one is named. -/
theorem target?_reads_nested
    : ∃ reading : LooseReading "call outer(inner(x))",
        reading.IsFirst
        ∧ reading.word = "inner"
        ∧ reading.closed.length ≤ ("call outer(inner(x))" : Text).length
        ∧ label "call outer(inner(x))" ≠ "" := by
  obtain ⟨-, -, closedFirst, labelled⟩ := target?_reads "call outer(inner(x))"
  have unread : IsEmpty (StrictReading "call outer(inner(x))") :=
    strict?_eq_none_iff.mp (by decide)
  have inner : CallsOnly ("inner(x)" : Text).toList :=
    .letter rfl (.letter rfl (.letter rfl (.letter rfl
      (.call (by decide) (.letter rfl .nil) .nil))))
  obtain ⟨reading, leads, named, closed⟩ :=
    closedFirst unread "call " "outer(inner(x))" "" (by decide)
      ⟨"outer", "inner(x)", by decide, by decide, by decide, inner⟩
  have read : target? "call outer(inner(x))" = some "inner" := by decide
  exact ⟨reading, leads, Option.some.inj (named.symm.trans read), closed, labelled (by decide)⟩

end ArkLifecycle.Invocation
