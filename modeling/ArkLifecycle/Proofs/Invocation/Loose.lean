import ArkLifecycle.Invocation
import ArkLifecycle.Proofs.Text.Cutting
import Mathlib.Data.List.DropRight

/-! The loose reading of invocations.

A text may read loosely at more than one parenthesis. The reading that counts is the one that opens
first; as no parenthesis stands within a reading, it is also the one that is closed first, and it is
closed no later than any call that has further calls among its arguments.
-/

namespace ArkLifecycle.Invocation

-----------------------------------------------------------------------------------------
-- Loose readings
-----------------------------------------------------------------------------------------

/-- There are no parentheses among the letters. -/
def IsFlat (letters : List Letter) : Prop :=
  ∀ letter ∈ letters, isParenthesis letter = false

/-- A way to read a text loosely: a whole word, and arguments in parentheses without others among
them.
-/
structure LooseReading (text : Text) where
  before : Text
  word : Text
  arguments : Text
  after : Text
  written : text = before ++ word ++ "(" ++ arguments ++ ")" ++ after
  word_some : word ≠ ""
  word_only : ∀ letter ∈ word.toList, Text.isWord letter = true
  word_whole : ∀ letter ∈ before.toList.getLast?, Text.isWord letter = false
  arguments_flat : IsFlat arguments.toList

variable {text : Text}

namespace LooseReading

/-- (opened reading) is what stands before the opening parenthesis. -/
def opened (reading : LooseReading text) : Text :=
  reading.before ++ reading.word

/-- (closed reading) is what stands up to the closing parenthesis, and with it. -/
def closed (reading : LooseReading text) : Text :=
  reading.opened ++ "(" ++ reading.arguments ++ ")"

/-- No other reading opens earlier. -/
def IsFirst (reading : LooseReading text) : Prop :=
  ∀ other : LooseReading text, reading.opened.length ≤ other.opened.length

end LooseReading

-----------------------------------------------------------------------------------------
-- The word before a parenthesis
-----------------------------------------------------------------------------------------

/-- (wordBefore letters) are the word characters at the end of the letters. -/
def wordBefore (letters : List Letter) : List Letter :=
  letters.rtakeWhile Text.isWord

theorem wordBefore_concat (letters : List Letter) (letter : Letter)
    : wordBefore (letters ++ [letter])
      = if Text.isWord letter then wordBefore letters ++ [letter] else [] :=
  List.rtakeWhile_concat ..

/-- A whole word at the end of the letters is the word before what follows. -/
theorem wordBefore_append {before word : List Letter}
    (whole : ∀ letter ∈ before.getLast?, Text.isWord letter = false)
    (only : ∀ letter ∈ word, Text.isWord letter = true)
    : wordBefore (before ++ word) = word := by
  have stopped : before.reverse.takeWhile Text.isWord = [] := by
    cases reversed : before.reverse with
    | nil => rfl
    | cons last more =>
        have ends : before.getLast? = some last := by
          rw [List.getLast?_eq_head?_reverse, reversed]
          rfl
        exact List.takeWhile_cons_of_neg (by simp [whole last ends])
  rw [wordBefore, List.rtakeWhile, List.reverse_append,
    List.takeWhile_append_of_pos (by simpa using only), stopped, List.append_nil,
    List.reverse_reverse]

theorem closesFirst_iff {letters : List Letter}
    : closesFirst letters = true
      ↔ ∃ arguments after, letters = arguments ++ .char ')' :: after ∧ IsFlat arguments := by
  simp [closesFirst, IsFlat, List.find?_eq_some_iff_append, isParenthesis]

theorem looseFrom_parenthesis (word rest : List Letter)
    : looseFrom word (.char '(' :: rest)
      = if word ≠ [] ∧ closesFirst rest = true then some word.reverse else looseFrom [] rest := by
  cases word <;> simp [looseFrom]

theorem looseFrom_other {letter : Letter} (other : letter ≠ .char '(') (word rest : List Letter)
    : looseFrom word (letter :: rest)
      = looseFrom (if Text.isWord letter then letter :: word else []) rest := by
  cases word <;> simp only [looseFrom, beq_iff_eq, other, if_false] <;> split <;> rfl

/-- A parenthesis either opens a call, or the search goes on with the word before the next letter.
-/
theorem looseFrom_cons (before : List Letter) (letter : Letter) (rest : List Letter)
    : looseFrom (wordBefore before).reverse (letter :: rest)
      = if letter = .char '(' ∧ wordBefore before ≠ [] ∧ closesFirst rest = true then
          some (wordBefore before)
        else
          looseFrom (wordBefore (before ++ [letter])).reverse rest := by
  rw [wordBefore_concat]
  by_cases opens : letter = .char '('
  · subst opens
    have apart : Text.isWord (.char '(') = false := by decide
    simp [looseFrom_parenthesis, apart]
  · simp only [looseFrom_other opens, opens, false_and, if_false]
    split <;> simp

-----------------------------------------------------------------------------------------
-- The search
-----------------------------------------------------------------------------------------

/-- A parenthesis that opens a call is enough for a name. Witness: induction over the letters that
are searched before it, which the word is taken from together with those before them.
-/
theorem isSome_looseFrom (before : List Letter) {skipped rest : List Letter}
    (named : wordBefore (before ++ skipped) ≠ [])
    (closes : closesFirst rest = true)
    : (looseFrom (wordBefore before).reverse (skipped ++ .char '(' :: rest)).isSome = true := by
  induction skipped generalizing before with
  | nil =>
      rw [List.append_nil] at named
      rw [List.nil_append, looseFrom_cons, if_pos ⟨rfl, named, closes⟩]
      rfl
  | cons letter more ih =>
      rw [List.cons_append, looseFrom_cons]
      split
      · rfl
      · exact ih _ (by simpa using named)

/-- The name is the word before the first parenthesis that opens a call. Witness: induction over the
letters that are searched.
-/
theorem looseFrom_eq_some (before : List Letter) {letters name : List Letter}
    (found : looseFrom (wordBefore before).reverse letters = some name)
    : ∃ skipped rest,
        letters = skipped ++ .char '(' :: rest
        ∧ name = wordBefore (before ++ skipped)
        ∧ wordBefore (before ++ skipped) ≠ []
        ∧ closesFirst rest = true
        ∧ ∀ earlier later,
            letters = earlier ++ .char '(' :: later
            → wordBefore (before ++ earlier) ≠ []
            → closesFirst later = true
            → skipped.length ≤ earlier.length := by
  induction letters generalizing before with
  | nil => cases found
  | cons letter rest ih =>
      rw [looseFrom_cons] at found
      split at found
      · next opens =>
          obtain ⟨rfl, named, closes⟩ := opens
          cases found
          exact ⟨[], rest, rfl, by simp, by simpa using named, closes,
            fun _ _ _ _ _ => Nat.zero_le _⟩
      · next other =>
          obtain ⟨skipped, after, rfl, same, named, closes, leftmost⟩ := ih _ found
          refine ⟨letter :: skipped, after, rfl, by simpa using same, by simpa using named, closes,
            ?_⟩
          rintro (_ | ⟨first, earlier⟩) later written also shuts
          · obtain ⟨rfl, rfl⟩ := List.cons.inj written
            exact absurd ⟨rfl, by simpa using also, shuts⟩ other
          · obtain ⟨rfl, inside⟩ := List.cons.inj written
            exact Nat.succ_le_succ (leftmost earlier later inside (by simpa using also) shuts)

-----------------------------------------------------------------------------------------
-- Readings and names
-----------------------------------------------------------------------------------------

namespace LooseReading

theorem toList_text (reading : LooseReading text)
    : text.toList
      = reading.opened.toList
        ++ .char '(' :: (reading.arguments.toList ++ .char ')' :: reading.after.toList) := by
  conv_lhs => rw [reading.written]
  simp [opened, Text.ofString, Text.ofChars]

theorem wordBefore_opened (reading : LooseReading text)
    : wordBefore reading.opened.toList = reading.word.toList :=
  wordBefore_append reading.word_whole reading.word_only

theorem named (reading : LooseReading text) : wordBefore reading.opened.toList ≠ [] := by
  rw [reading.wordBefore_opened]
  exact fun none => reading.word_some (Text.eq_iff_toList.mpr none)

theorem closes (reading : LooseReading text)
    : closesFirst (reading.arguments.toList ++ .char ')' :: reading.after.toList) = true :=
  closesFirst_iff.mpr ⟨_, _, rfl, reading.arguments_flat⟩

/-- There is a reading at every parenthesis that stands behind a word and is closed first. -/
theorem exists_opened {head arguments after : List Letter}
    (written : text.toList = head ++ .char '(' :: (arguments ++ .char ')' :: after))
    (named : wordBefore head ≠ [])
    (flat : IsFlat arguments)
    : ∃ reading : LooseReading text, reading.opened = ⟨head⟩ ∧ reading.arguments = ⟨arguments⟩ := by
  have whole : head.rdropWhile Text.isWord ++ wordBefore head = head :=
    List.rdropWhile_append_rtakeWhile
  refine ⟨⟨⟨head.rdropWhile Text.isWord⟩, ⟨wordBefore head⟩, ⟨arguments⟩, ⟨after⟩, ?_, ?_,
    fun letter => List.mem_rtakeWhile_imp, Text.getLast?_rdropWhile_not Text.isWord head, flat⟩,
    Text.eq_iff_toList.mpr whole, rfl⟩
  · rw [Text.eq_iff_toList, written]
    conv_lhs => rw [← whole]
    simp [Text.ofString, Text.ofChars]
  · exact fun none => named (Text.eq_iff_toList.mp none)

/-- A text with a reading has a name. -/
theorem isSome (reading : LooseReading text) : (looseFrom [] text.toList).isSome = true := by
  rw [reading.toList_text]
  exact isSome_looseFrom [] reading.named reading.closes

/-- Readings that open at the same place name the same word. -/
theorem word_eq {reading other : LooseReading text}
    (same : reading.opened.length = other.opened.length)
    : reading.word = other.word := by
  have opened := (List.append_inj (reading.toList_text.symm.trans other.toList_text) same).1
  rw [Text.eq_iff_toList, ← reading.wordBefore_opened, opened, other.wordBefore_opened]

theorem IsFirst.word_eq {reading other : LooseReading text} (leads : reading.IsFirst)
    (also : other.IsFirst)
    : reading.word = other.word :=
  LooseReading.word_eq (Nat.le_antisymm (leads other) (also reading))

end LooseReading

/-- A name is the word of a first reading. -/
theorem exists_isFirst_loose {name : List Letter} (found : looseFrom [] text.toList = some name)
    : ∃ reading : LooseReading text, reading.IsFirst ∧ name = reading.word.toList := by
  obtain ⟨skipped, rest, written, rfl, named, closes, leftmost⟩ := looseFrom_eq_some [] found
  obtain ⟨arguments, after, rfl, flat⟩ := closesFirst_iff.mp closes
  obtain ⟨reading, opened, -⟩ := LooseReading.exists_opened written named flat
  refine ⟨reading, fun other => ?_, ?_⟩
  · rw [opened]
    exact leftmost _ _ other.toList_text other.named other.closes
  · rw [← reading.wordBefore_opened, opened]
    rfl

/-- The loose reading gives the word of the first reading. -/
theorem called?_eq_some_iff {name : Text}
    : called? text = some name
      ↔ ∃ reading : LooseReading text, reading.IsFirst ∧ name = reading.word := by
  rw [called?, Option.map_eq_some_iff]
  constructor
  · rintro ⟨letters, found, rfl⟩
    obtain ⟨reading, leads, rfl⟩ := exists_isFirst_loose found
    exact ⟨reading, leads, rfl⟩
  · rintro ⟨reading, leads, rfl⟩
    obtain ⟨letters, found⟩ := Option.isSome_iff_exists.mp reading.isSome
    obtain ⟨other, also, rfl⟩ := exists_isFirst_loose found
    exact ⟨_, found, also.word_eq leads⟩

/-- There is no name exactly where there is no reading. -/
theorem called?_eq_none_iff : called? text = none ↔ IsEmpty (LooseReading text) := by
  rw [called?, Option.map_eq_none_iff]
  constructor
  · intro absent
    exact ⟨fun reading => by simpa [absent] using reading.isSome⟩
  · intro unread
    cases found : looseFrom [] text.toList with
    | none => rfl
    | some name =>
        obtain ⟨reading, -, -⟩ := exists_isFirst_loose found
        exact unread.elim reading

-----------------------------------------------------------------------------------------
-- Calls
-----------------------------------------------------------------------------------------

/-- All parentheses among the letters belong to calls: they stand behind words and are closed. -/
inductive CallsOnly : List Letter → Prop
  | nil : CallsOnly []
  | letter {letter : Letter} {rest : List Letter}
    : isParenthesis letter = false → CallsOnly rest → CallsOnly (letter :: rest)
  | call {last : Letter} {inner rest : List Letter}
    : Text.isWord last = true
      → CallsOnly inner
      → CallsOnly rest
      → CallsOnly (last :: .char '(' :: (inner ++ .char ')' :: rest))

/-- The text is a call: a word, and arguments in parentheses that may have calls among them. -/
def IsCall (text : Text) : Prop :=
  ∃ word arguments : Text,
    text = word ++ "(" ++ arguments ++ ")"
    ∧ word ≠ ""
    ∧ (∀ letter ∈ word.toList, Text.isWord letter = true)
    ∧ CallsOnly arguments.toList

/-- A call without further ones stands in the letters, behind `left`. -/
def HasCall (letters left : List Letter) : Prop :=
  ∃ last arguments right,
    letters = left ++ last :: .char '(' :: (arguments ++ .char ')' :: right)
    ∧ Text.isWord last = true
    ∧ IsFlat arguments

/-- Letters with calls have one without further calls. Witness: induction over the calls. -/
theorem CallsOnly.isFlat_or {letters : List Letter} (calls : CallsOnly letters)
    : IsFlat letters ∨ ∃ left, HasCall letters left := by
  induction calls with
  | nil => exact .inl (by simp [IsFlat])
  | @letter letter rest plain _ ih =>
      rcases ih with flat | ⟨left, last, arguments, right, rfl, wordly, flat⟩
      · exact .inl (List.forall_mem_cons.mpr ⟨plain, flat⟩)
      · exact .inr ⟨letter :: left, last, arguments, right, rfl, wordly, flat⟩
  | @call last inner rest wordly _ _ ih _ =>
      rcases ih with flat | ⟨left, inmost, arguments, right, rfl, also, flat⟩
      · exact .inr ⟨[], last, inner, rest, rfl, wordly, flat⟩
      · exact .inr ⟨last :: .char '(' :: left, inmost, arguments, right ++ .char ')' :: rest,
          by simp, also, flat⟩

theorem isParenthesis_of_isWord {letter : Letter} (wordly : Text.isWord letter = true)
    : isParenthesis letter = false := by
  by_contra parenthesis
  rw [Bool.not_eq_false, isParenthesis, Bool.or_eq_true, beq_iff_eq, beq_iff_eq] at parenthesis
  rcases parenthesis with rfl | rfl <;> revert wordly <;> decide

/-- Letters without parentheses may stand before calls. -/
theorem CallsOnly.append {head rest : List Letter} (flat : IsFlat head) (calls : CallsOnly rest)
    : CallsOnly (head ++ rest) := by
  induction head with
  | nil => exact calls
  | cons first more ih =>
      obtain ⟨plain, flat⟩ := List.forall_mem_cons.mp flat
      exact .letter plain (ih flat)

/-- Within a call there is one without further calls. -/
theorem IsCall.hasCall {call : Text} (is_call : IsCall call)
    : ∃ left, HasCall call.toList left := by
  obtain ⟨word, arguments, rfl, word_some, word_only, calls⟩ := is_call
  have present : word.toList ≠ [] := fun none => word_some (Text.eq_iff_toList.mpr none)
  obtain ⟨head, last, split⟩ := (List.eq_nil_or_concat word.toList).resolve_left present
  rw [split] at word_only
  have written
      : (word ++ "(" ++ arguments ++ ")" : Text).toList
        = head ++ last :: .char '(' :: (arguments.toList ++ .char ')' :: []) := by
    simp [split, Text.ofString, Text.ofChars]
  have whole : CallsOnly (word ++ "(" ++ arguments ++ ")" : Text).toList := by
    rw [written]
    refine .append (fun letter member => ?_) (.call (word_only last (by simp)) calls .nil)
    exact isParenthesis_of_isWord (word_only letter (by simp [member]))
  refine whole.isFlat_or.resolve_left fun flat => ?_
  exact absurd (flat (.char '(') (by simp [written])) (by decide)

namespace LooseReading

/-- Some reading is closed no later than a call in the text. -/
theorem exists_closed {left call right : Text} (written : text = left ++ call ++ right)
    (is_call : IsCall call)
    : ∃ reading : LooseReading text, reading.closed.length ≤ (left ++ call).length := by
  obtain ⟨front, last, arguments, back, inside, wordly, flat⟩ := is_call.hasCall
  have shown
      : text.toList
        = (left.toList ++ front) ++ [last]
          ++ .char '(' :: (arguments ++ .char ')' :: (back ++ right.toList)) := by
    simp [written, inside]
  have named : wordBefore ((left.toList ++ front) ++ [last]) ≠ [] := by
    rw [wordBefore_concat, if_pos wordly]
    exact List.append_ne_nil_of_right_ne_nil _ (List.cons_ne_nil _ _)
  obtain ⟨reading, opened, same⟩ := exists_opened shown named flat
  refine ⟨reading, ?_⟩
  simp [closed, opened, same, Text.length, inside, Text.ofString, Text.ofChars]

/-- What opens no later is closed no later. Witness: a parenthesis that closed the later one first
would stand among the arguments of the other.
-/
theorem closed_le {reading other : LooseReading text}
    (earlier : reading.opened.length ≤ other.opened.length)
    : reading.closed.length ≤ other.closed.length := by
  have length (one : LooseReading text)
      : one.closed.length = one.opened.length + 1 + one.arguments.length + 1 := by
    simp [closed, Text.length, Text.ofString, Text.ofChars]
    omega
  rw [length, length]
  by_contra later
  have shut
      : text.toList[other.opened.length + 1 + other.arguments.length]? = some (.char ')') := by
    rw [other.toList_text]
    grind [Text.length]
  have among
      : text.toList[other.opened.length + 1 + other.arguments.length]?
        = reading.arguments.toList[other.opened.length + other.arguments.length
          - reading.opened.length]? := by
    rw [reading.toList_text]
    grind [Text.length]
  have parenthesis := reading.arguments_flat _ (List.mem_of_getElem? (among.symm.trans shut))
  exact absurd parenthesis (by decide)

end LooseReading

end ArkLifecycle.Invocation
