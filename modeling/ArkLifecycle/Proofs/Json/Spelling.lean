import ArkLifecycle.Json.Printer
import ArkLifecycle.Proofs.Json.Numerals
import Mathlib.Data.List.Chain
import Mathlib.Data.Nat.Digits.Defs

/-! Texts and integers that are written in ASCII are read as they were.

A letter that is no printable ASCII character is escaped by its code units. Half of a pair is
escaped like a character; so two halves that stand side by side in a text would be read as the
character that they are the halves of. All other texts are read as they were.
-/

namespace ArkLifecycle.Json

-----------------------------------------------------------------------------------------
-- Code units
-----------------------------------------------------------------------------------------

/-- The character is a printable one of ASCII. -/
def IsPrintable (c : Char) : Prop :=
  0x20 ≤ c.toNat ∧ c.toNat ≤ 0x7e

instance (c : Char) : Decidable (IsPrintable c) :=
  inferInstanceAs (Decidable (_ ∧ _))

theorem isPrintable_of_all {chars : List Char} (all : chars.all (IsPrintable ·) = true)
    : ∀ c ∈ chars, IsPrintable c := by
  simpa using all

theorem hexDigit?_digitChar {d : Nat} (small : d < 16) : hexDigit? d.digitChar = some d := by
  revert d
  decide

theorem isPrintable_digitChar {d : Nat} (small : d < 16) : IsPrintable d.digitChar := by
  revert d
  decide

theorem hexDigits_one {n : Nat} (small : n < 16) : Text.hexDigits 1 n = [n.digitChar] := by
  rw [Text.hexDigits, Nat.toDigits_of_lt_base small]
  rfl

/-- The last digit is written after the others. -/
theorem hexDigits_succ {width : Nat} (some : 0 < width) (n : Nat)
    : Text.hexDigits (width + 1) n
      = Text.hexDigits width (n / 16) ++ [(n % 16).digitChar] := by
  by_cases small : n < 16
  · obtain ⟨more, rfl⟩ := Nat.exists_eq_add_of_lt some
    rw [Text.hexDigits, Text.hexDigits, Nat.toDigits_of_lt_base small, Nat.div_eq_of_lt small,
      Nat.mod_eq_of_lt small]
    simp [List.replicate_succ']
  · have split := Nat.toDigits_of_base_le (by decide) (Nat.le_of_not_lt small)
    rw [Text.hexDigits, Text.hexDigits, split, List.length_append, List.length_singleton,
      Nat.add_sub_add_right, List.append_assoc]

/-- A code unit is written by four digits, and read from them. -/
theorem hexDigits_four {n : Nat} (small : n < 0x10000)
    : ∃ a b c d,
        Text.hexDigits 4 n = [a, b, c, d]
        ∧ codeUnit? a b c d = some n
        ∧ ∀ digit ∈ [a, b, c, d], IsPrintable digit := by
  have first : n / 16 / 16 / 16 < 16 := by omega
  have digit (m : Nat) : m % 16 < 16 := Nat.mod_lt m (by decide)
  refine ⟨(n / 16 / 16 / 16).digitChar, (n / 16 / 16 % 16).digitChar, (n / 16 % 16).digitChar,
    (n % 16).digitChar, ?_, ?_, ?_⟩
  · rw [hexDigits_succ (by decide), hexDigits_succ (by decide), hexDigits_succ (by decide),
      hexDigits_one first]
    rfl
  · rw [codeUnit?, hexDigit?_digitChar first, hexDigit?_digitChar (digit _),
      hexDigit?_digitChar (digit _), hexDigit?_digitChar (digit _)]
    simp only [bind, Option.bind, pure, Option.some_inj]
    omega
  · simp [isPrintable_digitChar, digit, first]

-----------------------------------------------------------------------------------------
-- Letters
-----------------------------------------------------------------------------------------

/-- No leading half stands right before a trailing one. -/
def HalvesApart (s : Text) : Prop :=
  s.toList.IsChain fun letter next =>
    Text.isLeading letter.code = true → Text.isTrailing next.code = false

instance (s : Text) : Decidable (HalvesApart s) :=
  inferInstanceAs (Decidable (List.IsChain _ _))

/-- How a letter is written: after a backslash, as it is, or by its code units. -/
inductive Written : Letter → List Char → Prop
  | sign {letter sign : Char} (other : sign ≠ 'u') (printable : IsPrintable sign)
    (reads : escapedChar? sign = some letter)
    : Written letter ['\\', sign]
  | plain {c : Char} (printable : IsPrintable c) (quote : c ≠ '"') (backslash : c ≠ '\\')
    : Written c [c]
  | unit {letter : Letter} (small : letter.code < 0x10000)
    : Written letter (unitEscape letter.code)
  | units {high low : Nat} (leading : Text.isLeading high = true)
    (trailing : Text.isTrailing low = true)
    : Written (Text.ofPair high low) (unitEscape high ++ unitEscape low)

theorem signAfterBackslash?_eq_some {letter : Letter} {sign : Char}
    (escapes : signAfterBackslash? letter = some sign)
    : ∃ c : Char,
        letter = c ∧ sign ≠ 'u' ∧ IsPrintable sign ∧ escapedChar? sign = some c := by
  unfold signAfterBackslash? at escapes
  split at escapes
  all_goals
    cases escapes
    try exact ⟨_, rfl, by decide, by decide, rfl⟩

/-- A character beyond the codes of one unit is the character of its two units. -/
theorem ofPair_units {c : Char} (large : 0x10000 ≤ c.toNat)
    : Text.isLeading (0xd800 + (c.toNat - 0x10000) / 0x400) = true
      ∧ Text.isTrailing (0xdc00 + (c.toNat - 0x10000) % 0x400) = true
      ∧ Text.ofPair (0xd800 + (c.toNat - 0x10000) / 0x400) (0xdc00 + (c.toNat - 0x10000) % 0x400)
        = c := by
  have bound : c.toNat < 0x110000 := by
    have valid : c.toNat.isValidChar := c.valid
    rcases valid with below | above
    · omega
    · exact above.2
  have whole
      : 0x10000 + (0xd800 + (c.toNat - 0x10000) / 0x400 - 0xd800) * 0x400
          + (0xdc00 + (c.toNat - 0x10000) % 0x400 - 0xdc00)
        = c.toNat := by
    omega
  refine ⟨?_, ?_, ?_⟩
  · simp only [Text.isLeading, Bool.and_eq_true, decide_eq_true_eq]
    omega
  · simp only [Text.isTrailing, Bool.and_eq_true, decide_eq_true_eq]
    omega
  · rw [Text.ofPair, whole, Char.ofNat_toNat]

/-- A letter that is written by its code units has one of them, or is a character that has two. -/
theorem written_units (letter : Letter)
    : Written letter ((Text.unitsOf letter).flatMap unitEscape) := by
  unfold Text.unitsOf
  dsimp only
  split
  · next small =>
      rw [List.flatMap_singleton]
      exact .unit small
  · next large =>
      rw [List.flatMap_cons, List.flatMap_singleton]
      cases letter with
      | half index =>
          have small : Letter.firstHalf + index.val < 0x10000 := by
            rw [Letter.firstHalf]
            omega
          exact absurd small large
      | char c =>
          obtain ⟨leading, trailing, pair⟩ := ofPair_units (Nat.le_of_not_lt large)
          have written := Written.units leading trailing
          rw [pair] at written
          exact written

theorem written_asciiLetter (letter : Letter) : Written letter (asciiLetter letter) := by
  unfold asciiLetter
  split
  · next sign escapes =>
      obtain ⟨c, rfl, other, printable, reads⟩ := signAfterBackslash?_eq_some escapes
      exact .sign other printable reads
  · next none =>
      split
      · next c =>
          split
          · exact written_units c
          · next inside =>
              simp only [Bool.or_eq_true, decide_eq_true_eq] at inside
              refine .plain (by rw [IsPrintable]; omega) ?_ ?_
              · rintro rfl
                cases none
              · rintro rfl
                cases none
      · next index => exact written_units (.half index)

/-- A letter is told by its code. -/
theorem ofCode_code (letter : Letter) : Letter.ofCode letter.code = letter := by
  cases letter with
  | half index =>
      have inside : Letter.firstHalf ≤ Letter.firstHalf + index.val
          ∧ Letter.firstHalf + index.val - Letter.firstHalf < 0x800 := by
        omega
      rw [Letter.code, Letter.ofCode, dif_pos inside]
      simp
  | char c =>
      have outside : ¬(Letter.firstHalf ≤ c.toNat ∧ c.toNat - Letter.firstHalf < 0x800) := by
        have valid : c.toNat.isValidChar := c.valid
        rw [Letter.firstHalf]
        rcases valid with below | above <;> omega
      rw [Letter.code, Letter.ofCode, dif_neg outside, Char.ofNat_toNat]

-----------------------------------------------------------------------------------------
-- Texts
-----------------------------------------------------------------------------------------

/-- The characters do not go on with the second unit of a pair: what follows is no escaped unit, or
one that ends no pair.
-/
inductive Lone : List Char → Prop
  | other {chars : List Char} (none : ∀ more, chars ≠ '\\' :: 'u' :: more) : Lone chars
  | unit {n : Nat} (small : n < 0x10000) (lone : Text.isTrailing n = false) (more : List Char)
    : Lone (unitEscape n ++ more)

/-- A unit is read alone, unless it begins a pair that the next one ends. -/
theorem readChars_unit {n : Nat} (small : n < 0x10000) {more : List Char}
    (alone : Text.isLeading n = true → Lone more) (done : List Letter)
    : readChars done (unitEscape n ++ more) = readChars (Letter.ofCode n :: done) more := by
  obtain ⟨a, b, c, d, digits, code, -⟩ := hexDigits_four small
  rw [unitEscape, digits]
  change readChars done ('\\' :: 'u' :: a :: b :: c :: d :: more) = _
  by_cases paired : ∃ e f g h rest, more = '\\' :: 'u' :: e :: f :: g :: h :: rest
  · obtain ⟨e, f, g, h, rest, rfl⟩ := paired
    rw [readChars, code]
    cases leading : Text.isLeading n with
    | false => simp [leading]
    | true =>
        obtain ⟨m, next, lone⟩ : ∃ m, codeUnit? e f g h = some m ∧ Text.isTrailing m = false := by
          generalize same : '\\' :: 'u' :: e :: f :: g :: h :: rest = more at alone
          cases alone leading with
          | other none => exact absurd same.symm (none _)
          | @unit m bound lone others =>
              obtain ⟨e', f', g', h', written, read, -⟩ := hexDigits_four bound
              rw [unitEscape, written] at same
              cases same
              exact ⟨m, read, lone⟩
        simp [leading, next, lone]
  · rw [readChars.eq_4 _ _ _ _ _ _ fun e f g h rest same => paired ⟨e, f, g, h, rest, same⟩, code]

/-- Two units that make a pair are read as its character. -/
theorem readChars_pair {high low : Nat} (leading : Text.isLeading high = true)
    (trailing : Text.isTrailing low = true) (done : List Letter) (more : List Char)
    : readChars done (unitEscape high ++ (unitEscape low ++ more))
      = readChars (.char (Text.ofPair high low) :: done) more := by
  have bounds : high < 0x10000 ∧ low < 0x10000 := by
    simp only [Text.isLeading, Text.isTrailing, Bool.and_eq_true, decide_eq_true_eq] at *
    omega
  obtain ⟨a, b, c, d, first, begins, -⟩ := hexDigits_four bounds.1
  obtain ⟨e, f, g, h, second, ends, -⟩ := hexDigits_four bounds.2
  rw [unitEscape, unitEscape, first, second]
  change readChars done ('\\' :: 'u' :: a :: b :: c :: d :: '\\' :: 'u' :: e :: f :: g :: h :: more)
    = _
  rw [readChars, begins]
  simp [leading, ends, trailing]

/-- A letter is read as it was written. -/
theorem Written.readChars_eq {letter : Letter} {chars more : List Char}
    (written : Written letter chars) (alone : Text.isLeading letter.code = true → Lone more)
    (done : List Letter)
    : readChars done (chars ++ more) = readChars (letter :: done) more := by
  cases written with
  | @sign c sign other printable reads =>
      have read := readChars.eq_5 done sign more (fun _ _ _ _ _ _ _ _ _ same => absurd same other)
        (fun _ _ _ _ _ same => absurd same other)
      rw [reads] at read
      exact read
  | @plain c printable quote backslash =>
      have read := readChars.eq_6 done c more (fun same => absurd same quote)
          (fun _ _ _ _ _ _ _ _ _ same => absurd same backslash)
          (fun _ _ _ _ _ same => absurd same backslash)
          (fun _ _ same => absurd same backslash)
      refine read.trans (if_neg ?_)
      simpa [backslash] using printable.1
  | unit small =>
      rw [readChars_unit small alone, ofCode_code]
  | units leading trailing =>
      rw [List.append_assoc, readChars_pair leading trailing]

/-- What is written for a letter does not go on with the second unit of a pair, unless the letter is
that unit.
-/
theorem Written.lone {letter : Letter} {chars : List Char} (written : Written letter chars)
    (lone : Text.isTrailing letter.code = false) (more : List Char)
    : Lone (chars ++ more) := by
  cases written with
  | sign other => exact .other fun rest same => other (List.cons.inj (List.cons.inj same).2).1
  | plain _ _ backslash => exact .other fun rest same => backslash (List.cons.inj same).1
  | unit small => exact .unit small lone more
  | @units high low leading =>
      rw [List.append_assoc]
      simp only [Text.isLeading, Bool.and_eq_true, decide_eq_true_eq] at leading
      refine .unit (by omega) ?_ _
      simp only [Text.isTrailing, Bool.and_eq_false_iff, decide_eq_false_iff_not]
      omega

theorem Written.printable {letter : Letter} {chars : List Char} (written : Written letter chars)
    : ∀ c ∈ chars, IsPrintable c := by
  have units {n : Nat} (small : n < 0x10000) : ∀ c ∈ unitEscape n, IsPrintable c := by
    obtain ⟨a, b, c, d, digits, -, printable⟩ := hexDigits_four small
    rw [unitEscape, digits, List.forall_mem_cons, List.forall_mem_cons]
    exact ⟨by decide, by decide, printable⟩
  cases written with
  | sign _ printable => simpa using ⟨by decide, printable⟩
  | plain printable => simpa using printable
  | unit small => exact units small
  | units leading trailing =>
      simp only [Text.isLeading, Text.isTrailing, Bool.and_eq_true, decide_eq_true_eq]
        at leading trailing
      rw [List.forall_mem_append]
      exact ⟨units (by omega), units (by omega)⟩

/-- Letters are read up to the closing quote. Witness: induction over the letters. -/
theorem readChars_letters {letters : List Letter} (apart : HalvesApart ⟨letters⟩)
    (done : List Letter) (rest : List Char)
    : readChars done (letters.flatMap asciiLetter ++ '"' :: rest)
      = .ok (⟨done.reverse ++ letters⟩, rest) := by
  induction letters generalizing done with
  | nil =>
      rw [List.append_nil]
      exact readChars.eq_2 done rest
  | cons letter more ih =>
      have alone : Text.isLeading letter.code = true
          → Lone (more.flatMap asciiLetter ++ '"' :: rest) := by
        intro leading
        cases more with
        | nil => exact .other fun others same => by cases same
        | cons next others =>
            have lone := (List.isChain_cons_cons.mp apart).1 leading
            rw [List.flatMap_cons, List.append_assoc]
            exact (written_asciiLetter next).lone lone _
      rw [List.flatMap_cons, List.append_assoc, (written_asciiLetter letter).readChars_eq alone,
        ih (List.IsChain.tail apart), List.reverse_cons, List.append_assoc]
      rfl

/-- A text is read as it was written, but for its opening quote. -/
theorem readChars_asciiText {s : Text} (apart : HalvesApart s) (rest : List Char)
    : ∃ chars,
        asciiText s = '"' :: chars
        ∧ readChars [] (chars ++ rest) = .ok (s, rest) := by
  refine ⟨s.toList.flatMap asciiLetter ++ ['"'], rfl, ?_⟩
  rw [List.append_assoc]
  exact readChars_letters apart [] rest

theorem isPrintable_asciiText (s : Text) : ∀ c ∈ asciiText s, IsPrintable c := by
  have letters : ∀ c ∈ s.toList.flatMap asciiLetter, IsPrintable c := by
    intro c member
    obtain ⟨letter, -, inside⟩ := List.mem_flatMap.mp member
    exact (written_asciiLetter letter).printable c inside
  have quote : IsPrintable '"' := by decide
  rw [asciiText, List.forall_mem_append, List.forall_mem_cons, List.forall_mem_singleton]
  exact ⟨⟨quote, letters⟩, quote⟩

-----------------------------------------------------------------------------------------
-- Integers
-----------------------------------------------------------------------------------------

/-- What follows a number: a document ends, or goes on with a comma or a closing bracket. -/
def Ends (rest : List Char) : Prop :=
  ∀ c ∈ rest.head?, c = ',' ∨ c = ']' ∨ c = '\x7d'

theorem ends_cons {c : Char} (sign : c = ',' ∨ c = ']' ∨ c = '\x7d') (rest : List Char)
    : Ends (c :: rest) := by
  rintro _ ⟨⟩
  exact sign

theorem digitsValue_concat (digits : List Char) (last : Char)
    : digitsValue (digits ++ [last]) = 10 * digitsValue digits + (last.toNat - 0x30) :=
  List.foldl_concat ..

theorem toNat_digitChar {d : Nat} (small : d < 10) : d.digitChar.toNat - 0x30 = d := by
  revert d
  decide

/-- The digits of a number write it, and do not begin with a zero unless they are only a zero.
Witness: induction on the number.
-/
theorem digits_of_nat (n : Nat)
    : digitsValue (Nat.toDigits 10 n) = n
      ∧ ((Nat.toDigits 10 n).head? = some '0' → Nat.toDigits 10 n = ['0']) := by
  induction n using Nat.strongRecOn with
  | ind n ih =>
      by_cases small : n < 10
      · rw [Nat.toDigits_of_lt_base small]
        clear ih
        revert n
        decide
      · obtain ⟨value, begins⟩ := ih (n / 10) (by omega)
        have last : n % 10 < 10 := Nat.mod_lt n (by decide)
        rw [Nat.toDigits_of_base_le (by decide) (Nat.le_of_not_lt small)]
        constructor
        · rw [digitsValue_concat, value, toNat_digitChar last]
          omega
        · intro zero
          rw [List.head?_append_of_ne_nil _ Nat.toDigits_ne_nil] at zero
          rw [begins zero] at value
          have none : digitsValue ['0'] = 0 := rfl
          omega

theorem length_toDigits_le {n limit : Nat} (some : 0 < limit) (few : n < Nat.pow 10 limit)
    : (Nat.toDigits 10 n).length ≤ limit :=
  (Nat.length_toDigits_le_iff (by decide) some).mpr few

/-- What ends a number does not go on with it. -/
theorem Ends.not_digit {rest : List Char} (ends : Ends rest)
    : rest.takeWhile Char.isDigit = []
      ∧ readFraction rest = (none, rest)
      ∧ readPower rest = (none, rest) := by
  cases rest with
  | nil => exact ⟨rfl, rfl, rfl⟩
  | cons c more => rcases ends c rfl with rfl | rfl | rfl <;> exact ⟨rfl, rfl, rfl⟩

/-- All digits of a number are read, up to what ends it. -/
theorem readWhole_toDigits (n : Nat) {rest : List Char} (ends : Ends rest)
    : readWhole (Nat.toDigits 10 n ++ rest) = some (Nat.toDigits 10 n, rest) := by
  obtain ⟨-, begins⟩ := digits_of_nat n
  have only : ∀ c ∈ Nat.toDigits 10 n, c.isDigit = true :=
    fun c member => Nat.isDigit_of_mem_toDigits (by decide) (by decide) member
  obtain ⟨first, more, digits⟩ :=
    List.exists_cons_of_ne_nil (Nat.toDigits_ne_nil (b := 10) (n := n))
  rw [digits] at begins only ⊢
  by_cases zero : first = '0'
  · obtain rfl := zero
    rw [begins rfl]
    rfl
  · have run : (first :: more ++ rest).takeWhile Char.isDigit = first :: more := by
      rw [List.takeWhile_append_of_pos only, ends.not_digit.1, List.append_nil]
    have after : (first :: more ++ rest).dropWhile Char.isDigit = rest :=
      List.append_cancel_left
        ((congrArg (· ++ _) run.symm).trans List.takeWhile_append_dropWhile)
    rw [List.cons_append, readWhole.eq_2 _ fun others same => zero (List.cons.inj same).1,
      ← List.cons_append, List.span_eq_takeWhile_dropWhile, run, after]
    rfl

/-- A number is read from its digits, up to what ends it. -/
theorem readMagnitude_digits (negative : Bool) {n : Nat} (few : n < Nat.pow 10 Fault.numeralLimit)
    {rest : List Char} (ends : Ends rest)
    : readMagnitude negative (Nat.toDigits 10 n ++ rest)
      = .ok (.int (if negative then -n else n), rest) := by
  obtain ⟨value, -⟩ := digits_of_nat n
  obtain ⟨-, fraction, power⟩ := ends.not_digit
  have short := length_toDigits_le (by decide) few
  rw [readMagnitude, readWhole_toDigits n ends]
  simp only [fraction, power, if_neg (Nat.not_lt.mpr short), value]

/-- (writtenInt n) are the characters of an integer. -/
def writtenInt (n : Int) : List Char :=
  if n < 0 then '-' :: Nat.toDigits 10 n.natAbs else Nat.toDigits 10 n.natAbs

theorem compactChars_showable {n : Int} (showable : Showable n) (room : Nat)
    : compactChars room (.int n) = .ok (writtenInt n) := by
  have few : n.natAbs < Nat.pow 10 Fault.numeralLimit := showable
  have digits (m : Nat) : asciiOf (Text.ofNat m) = Nat.toDigits 10 m := by
    simp [asciiOf, Text.ofNat, Text.ofChars, List.filterMap_map, Function.comp_def, Letter.char?]
  rw [compactChars_int, Text.ofInt, if_pos few, writtenInt]
  split
  · exact congrArg (fun shown => Except.ok ('-' :: shown)) (digits _)
  · exact congrArg Except.ok (digits _)

/-- An integer begins with a digit or a sign. -/
theorem writtenInt_eq_cons (n : Int)
    : ∃ c more, writtenInt n = c :: more ∧ (c.isDigit = true ∨ c = '-') := by
  obtain ⟨first, more, digits⟩ :=
    List.exists_cons_of_ne_nil (Nat.toDigits_ne_nil (b := 10) (n := n.natAbs))
  rw [writtenInt]
  split
  · exact ⟨'-', _, rfl, .inr rfl⟩
  · refine ⟨first, more, digits, .inl ?_⟩
    exact Nat.isDigit_of_mem_toDigits (by decide) (by decide) (digits ▸ List.mem_cons_self)

theorem readPlain_digit {c : Char} (digit : c.isDigit = true) (more : List Char)
    : readPlain (c :: more) = readMagnitude false (c :: more)
      ∧ readPlain ('-' :: c :: more) = readMagnitude true (c :: more) := by
  -- What begins with a digit is no word, sign or name of a number.
  have word {sign : Char} (none : sign.isDigit = false) (others : List Char)
      : c :: more ≠ sign :: others := by
    intro same
    cases (List.cons.inj same).1
    cases digit.symm.trans none
  constructor
  · exact readPlain.eq_8 _ (fun _ => word rfl _) (fun _ => word rfl _) (fun _ => word rfl _)
      (fun _ => word rfl _) (fun _ => word rfl _) (fun _ => word rfl _) fun _ => word rfl _
  · exact readPlain.eq_7 _ fun _ => word rfl _

/-- An integer is read as it was written. -/
theorem readPlain_writtenInt {n : Int} (showable : Showable n) {rest : List Char}
    (ends : Ends rest)
    : readPlain (writtenInt n ++ rest) = .ok (.int n, rest) := by
  obtain ⟨first, more, digits⟩ :=
    List.exists_cons_of_ne_nil (Nat.toDigits_ne_nil (b := 10) (n := n.natAbs))
  have digit : first.isDigit = true :=
    Nat.isDigit_of_mem_toDigits (by decide) (by decide) (digits ▸ List.mem_cons_self)
  have read (negative : Bool) := readMagnitude_digits negative showable ends
  rw [digits] at read
  rw [writtenInt, digits]
  split
  · next below =>
      refine (readPlain_digit digit (more ++ rest)).2.trans ((read true).trans ?_)
      have same : -(n.natAbs : Int) = n := by omega
      rw [if_pos rfl, same]
  · next above =>
      refine (readPlain_digit digit (more ++ rest)).1.trans ((read false).trans ?_)
      have same : (n.natAbs : Int) = n := by omega
      rw [if_neg (by decide), same]

theorem isPrintable_writtenInt (n : Int) : ∀ c ∈ writtenInt n, IsPrintable c := by
  have digits {m : Nat} : ∀ c ∈ Nat.toDigits 10 m, IsPrintable c := by
    intro c member
    have digit := Nat.isDigit_of_mem_toDigits (by decide) (by decide) member
    simp only [Char.isDigit, Bool.and_eq_true, decide_eq_true_eq] at digit
    have lowest : 48 ≤ c.toNat := UInt32.le_iff_toNat_le.mp digit.1
    have highest : c.toNat ≤ 57 := UInt32.le_iff_toNat_le.mp digit.2
    rw [IsPrintable]
    omega
  rw [writtenInt]
  split
  · rw [List.forall_mem_cons]
    exact ⟨by decide, digits⟩
  · exact digits

end ArkLifecycle.Json
