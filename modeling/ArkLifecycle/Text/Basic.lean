/-! Texts.

A text is a sequence of letters, and a letter is a character. Escapes can also write half of a pair
of UTF-16 code units without the other half; it is no character, and is kept as a letter of its
own, so that it can be told from all characters and written back as it came.
-/

namespace ArkLifecycle

/-- A letter of a text: a character, or half of a pair of code units. The halves are counted from
the first leading one.
-/
inductive Letter where
  | char (value : Char)
  | half (index : Fin 0x800)
deriving DecidableEq, Repr, Inhabited

instance : Hashable Letter where
  hash
    | .char value => mixHash 0 (hash value.val)
    | .half index => mixHash 1 (hash index.val)

/-- A text: its letters in order. -/
structure Text where
  ofList ::
  toList : List Letter
deriving DecidableEq, Repr, Inhabited, Hashable

namespace Letter

/-- A character is a letter. -/
instance : Coe Char Letter := ⟨char⟩

/-- (firstHalf) is the code of the first half of a pair. -/
def firstHalf : Nat := 0xd800

/-- (code letter) is the code point of a character, or the code unit of half a pair. -/
def code : Letter → Nat
  | .char value => value.toNat
  | .half index => firstHalf + index

/-- (ofCode n) is the letter with the code `n`. -/
def ofCode (n : Nat) : Letter :=
  if h : firstHalf ≤ n ∧ n - firstHalf < 0x800 then
    .half ⟨n - firstHalf, h.2⟩
  else
    .char (Char.ofNat n)

/-- (char? letter) is the character that the letter is, none of half a pair. -/
def char? : Letter → Option Char
  | .char value => some value
  | .half _ => none

/-- (satisfies test letter) holds of the characters of which the test holds. -/
def satisfies (test : Char → Bool) : Letter → Bool
  | .char value => test value
  | .half _ => false

end Letter

namespace Text

/-- (ofChars cs) is the text of the characters `cs`. -/
def ofChars (cs : List Char) : Text :=
  ⟨cs.map Letter.char⟩

/-- (ofString s) is the text of the characters of `s`. -/
def ofString (s : String) : Text :=
  ofChars s.toList

/-- Characters in a row are a text. -/
instance : Coe String Text := ⟨ofString⟩

/-- Texts are written one after the other. -/
instance : Append Text := ⟨fun s t => ⟨s.toList ++ t.toList⟩⟩

/-- (isEmpty s) holds of the text without letters. -/
def isEmpty (s : Text) : Bool :=
  s.toList.isEmpty

/-- (length s) is the number of letters. -/
def length (s : Text) : Nat :=
  s.toList.length

/-- (chars? s) are the characters of a text in which there is nothing else. -/
def chars? (s : Text) : Option (List Char) :=
  s.toList.mapM Letter.char?

/-- (string? s) is a text that consists of characters as a string. -/
def string? (s : Text) : Option String :=
  s.chars?.map String.ofList

/-- (ofNat n) writes a natural number. -/
def ofNat (n : Nat) : Text :=
  ofChars (Nat.toDigits 10 n)

/-- (replace s old new) writes another text for every letter of one kind. -/
def replace (s : Text) (old : Letter) (new : Text) : Text :=
  ⟨s.toList.flatMap fun letter => if letter = old then new.toList else [letter]⟩

/-- Two kinds of letters can be replaced in one pass, unless the second stands in what is written
for the first.
-/
theorem replace_replace (s : Text) {first second : Letter} {one other : Text}
    (apart : second ∉ one.toList)
    : (s.replace first one).replace second other
      = ofList (s.toList.flatMap fun letter =>
          if letter = first then one.toList
          else if letter = second then other.toList
          else [letter]) := by
  have kept
      : (one.toList.flatMap fun letter => if letter = second then other.toList else [letter])
        = one.toList := by
    have same (letter : Letter) (member : letter ∈ one.toList)
        : (if letter = second then other.toList else [letter]) = [letter] :=
      if_neg fun (met : letter = second) => apart (met ▸ member)
    rw [List.flatMap_def, List.map_congr_left same, ← List.flatMap_def, List.flatMap_singleton']
  have each (letter : Letter)
      : ((if letter = first then one.toList else [letter]).flatMap fun letter =>
          if letter = second then other.toList else [letter])
        = if letter = first then one.toList
          else if letter = second then other.toList
          else [letter] := by
    split
    · exact kept
    · exact List.flatMap_singleton _ _
  rw [replace, replace, List.flatMap_assoc]
  simp only [each]

/-- (precedes s t) holds when `s` comes before `t` in the order of codes. -/
def precedes (s t : Text) : Bool :=
  compare (s.toList.map Letter.code) (t.toList.map Letter.code) == .lt

end Text

end ArkLifecycle
