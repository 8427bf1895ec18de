import ArkLifecycle.Text.Blank
import ArkLifecycle.Text.Search
import ArkLifecycle.Text.Word
import Mathlib.Data.List.DropRight
import Mathlib.Data.List.TakeWhile

/-! Texts that are cut at a letter, into runs, or at their blanks.

Every cut is told by what the text is made of: the parts written one after the other, and which
letters do not occur in them.
-/

namespace ArkLifecycle.Text

@[simp]
theorem toList_append (s t : Text) : (s ++ t).toList = s.toList ++ t.toList :=
  rfl

theorem eq_iff_toList {s t : Text} : s = t ↔ s.toList = t.toList :=
  ⟨congrArg toList, congrArg ofList⟩

theorem isEmpty_iff {s : Text} : s.isEmpty = true ↔ s = "" := by
  rw [isEmpty, List.isEmpty_iff, eq_iff_toList]
  rfl

-----------------------------------------------------------------------------------------
-- Around a letter
-----------------------------------------------------------------------------------------

section Letters

variable {stop : Letter} {letters head tail : List Letter}

/-- A text is cut at its first stop. Witness: induction over the letters. -/
theorem beforeFirst_eq_some_iff
    : beforeFirst stop letters = some (head, tail)
      ↔ letters = head ++ stop :: tail ∧ stop ∉ head := by
  induction letters generalizing head with
  | nil => simp [beforeFirst]
  | cons letter rest ih =>
      rw [beforeFirst]
      by_cases same : letter = stop
      · subst same
        cases head with
        | nil => simp
        | cons first more => grind
      · cases head with
        | nil => simp [same]
        | cons first more => simp [same, ih]; grind

theorem beforeFirst_append (absent : stop ∉ head) (tail : List Letter)
    : beforeFirst stop (head ++ stop :: tail) = some (head, tail) :=
  beforeFirst_eq_some_iff.mpr ⟨rfl, absent⟩

theorem beforeLast_eq_none_iff : beforeLast stop letters = none ↔ stop ∉ letters := by
  induction letters with
  | nil => simp [beforeLast]
  | cons letter rest ih =>
      rw [beforeLast]
      cases cut : beforeLast stop rest <;> grind

/-- A text is cut at its last stop. Witness: induction over the letters. -/
theorem beforeLast_eq_some_iff
    : beforeLast stop letters = some (head, tail)
      ↔ letters = head ++ stop :: tail ∧ stop ∉ tail := by
  induction letters generalizing head tail with
  | nil => simp [beforeLast]
  | cons letter rest ih =>
      rw [beforeLast]
      cases cut : beforeLast stop rest with
      | none =>
          have absent := beforeLast_eq_none_iff.mp cut
          cases head <;> grind
      | some parts =>
          obtain ⟨same, absent⟩ := ih.mp cut
          constructor
          · rintro ⟨⟩
            exact ⟨by rw [same]; rfl, absent⟩
          · rintro ⟨written, later⟩
            cases head with
            | nil =>
                cases written
                simp [same] at later
            | cons first more =>
                cases written
                cases (ih.mpr ⟨rfl, later⟩).symm.trans cut
                rfl

end Letters

-----------------------------------------------------------------------------------------
-- Runs
-----------------------------------------------------------------------------------------

/-- A run of letters that pass a test is taken off as a whole before a letter that does not. -/
theorem cut_run {test : Letter → Bool} {run : List Letter} {next : Letter}
    (only : ∀ letter ∈ run, test letter = true) (other : test next = false) (rest : List Letter)
    : (run ++ next :: rest).takeWhile test = run
      ∧ (run ++ next :: rest).dropWhile test = next :: rest := by
  rw [List.takeWhile_append_of_pos only, List.dropWhile_append_of_pos only]
  simp [other]

/-- What is left of a text without its last run does not end in a letter of the run. -/
theorem getLast?_rdropWhile_not (test : Letter → Bool) (letters : List Letter)
    : ∀ letter ∈ (letters.rdropWhile test).getLast?, test letter = false := by
  intro letter last
  have some : letters.rdropWhile test ≠ [] := by
    rintro none
    simp [none] at last
  have shown := List.rdropWhile_last_not test letters some
  rw [List.getLast?_eq_getLast_of_ne_nil some, Option.mem_some_iff] at last
  exact last ▸ Bool.eq_false_iff.mpr shown

-----------------------------------------------------------------------------------------
-- Blanks
-----------------------------------------------------------------------------------------

/-- There are only blanks in the text. -/
def IsBlanks (s : Text) : Prop :=
  ∀ letter ∈ s.toList, isBlank letter = true

/-- The text neither begins nor ends with a blank. -/
structure IsTrimmed (s : Text) : Prop where
  starts : ∀ letter ∈ s.toList.head?, isBlank letter = false
  ends : ∀ letter ∈ s.toList.getLast?, isBlank letter = false

instance (s : Text) : Decidable s.IsBlanks :=
  inferInstanceAs (Decidable (∀ letter ∈ s.toList, isBlank letter = true))

instance (s : Text) : Decidable s.IsTrimmed :=
  decidable_of_iff
    ((∀ letter ∈ s.toList.head?, isBlank letter = false)
      ∧ ∀ letter ∈ s.toList.getLast?, isBlank letter = false)
    ⟨fun ⟨starts, ends⟩ => ⟨starts, ends⟩, fun ⟨starts, ends⟩ => ⟨starts, ends⟩⟩

/-- No blank is a word character.
Witness: the codes of the blanks, each compared with the table of word characters.
-/
theorem isWord_of_isBlank {letter : Letter} (blank : isBlank letter = true)
    : isWord letter = false := by
  have apart
      : ∀ n ∈ [0x85, 0xa0, 0x1680, 0x2000, 0x2001, 0x2002, 0x2003, 0x2004, 0x2005, 0x2006,
          0x2007, 0x2008, 0x2009, 0x200a, 0x2028, 0x2029, 0x202f, 0x205f, 0x3000],
          inRanges wordRanges n 0 wordRanges.size = false := by
    decide +kernel
  simp only [isBlank, Bool.or_eq_true, Bool.and_eq_true, decide_eq_true_eq, beq_iff_eq] at blank
  dsimp only [isWord]
  split
  · next ascii =>
      have low : letter.code ≤ 0x20 := by omega
      simp only [isAsciiWord, Bool.or_eq_false_iff, Bool.and_eq_false_iff, decide_eq_false_iff_not,
        beq_eq_false_iff_ne]
      omega
  · next beyond =>
      refine apart letter.code ?_
      simp only [List.mem_cons, List.not_mem_nil, or_false]
      omega

theorem trimEnd_eq_rdropWhile (letters : List Letter)
    : trimEnd letters = letters.rdropWhile isBlank :=
  rfl

/-- Blanks around a text are trimmed off with the rest of them. -/
theorem trim_between {before after letters : List Letter}
    (leading : ∀ letter ∈ before, isBlank letter = true)
    (trailing : ∀ letter ∈ after, isBlank letter = true)
    : trim (before ++ letters ++ after) = trim letters := by
  have dropped (shown : List Letter) : trimEnd (shown ++ after) = trimEnd shown := by
    rw [trimEnd, trimEnd, List.reverse_append,
      List.dropWhile_append_of_pos (by simpa using trailing)]
  rw [List.append_assoc, trim, trim, trimStart, trimStart, List.dropWhile_append_of_pos leading,
    List.dropWhile_append]
  split
  · next blank =>
      rw [List.isEmpty_iff.mp blank, ← List.nil_append (after.dropWhile isBlank),
        List.dropWhile_eq_nil_iff.mpr trailing]
      rfl
  · exact dropped _

/-- A trimmed text has nothing to trim. -/
theorem IsTrimmed.trim_eq {s : Text} (trimmed : s.IsTrimmed) : trim s.toList = s.toList := by
  have left : trimStart s.toList = s.toList := by
    have starts := trimmed.starts
    unfold trimStart
    cases letters : s.toList with
    | nil => rfl
    | cons first rest =>
        rw [letters] at starts
        exact List.dropWhile_cons_of_neg (by simp [starts first rfl])
  rw [trim, left, trimEnd_eq_rdropWhile, List.rdropWhile_eq_self_iff]
  intro some
  simp [trimmed.ends _ (List.getLast?_eq_getLast_of_ne_nil some)]

/-- A text without blanks has nothing to trim. -/
theorem trim_eq_of_solid {letters : List Letter}
    (solid : ∀ letter ∈ letters, isBlank letter = false)
    : trim letters = letters :=
  IsTrimmed.trim_eq (s := ⟨letters⟩)
    ⟨fun letter first => solid letter (List.mem_of_mem_head? first),
      fun letter last => solid letter (List.mem_of_getLast? last)⟩

/-- A text between two letters that are no blanks is trimmed. -/
theorem isTrimmed_between {first last : Letter} (begins : isBlank first = false)
    (finishes : isBlank last = false) (inner : List Letter)
    : IsTrimmed ⟨first :: (inner ++ [last])⟩ := by
  constructor
  · rintro letter ⟨⟩
    exact begins
  · have ending : (first :: (inner ++ [last])).getLast? = some last :=
      List.getLast?_concat (l := first :: inner)
    rw [ending]
    rintro letter ⟨⟩
    exact finishes

/-- Trimming leaves a part of the text. -/
theorem trim_infix (letters : List Letter) : trim letters <:+: letters :=
  (List.rdropWhile_prefix isBlank _).isInfix.trans (List.dropWhile_suffix isBlank).isInfix

/-- What was trimmed is trimmed. -/
theorem trim_isTrimmed (letters : List Letter) : IsTrimmed ⟨trim letters⟩ := by
  constructor
  case starts =>
    intro letter first
    obtain ⟨more, whole⟩ := List.rdropWhile_prefix isBlank (trimStart letters)
    have begins : (letters.dropWhile isBlank).head? = some letter := by
      have kept : (trim letters ++ more).head? = some letter := by simp [Option.mem_def.mp first]
      rwa [trim, trimEnd_eq_rdropWhile, whole] at kept
    simpa [begins] using List.head?_dropWhile_not isBlank letters
  case ends => exact getLast?_rdropWhile_not isBlank (trimStart letters)

end ArkLifecycle.Text
