import ArkLifecycle.Text.Printable
import ArkLifecycle.Text.Search

/-! Quoted text, as messages show it.

A text is put in single quotes, or in double quotes when it holds a single quote and no double
quote. The enclosing quote, the backslash, line ends and tabs are escaped by a backslash, and
every other letter that is not printable by its code. Bytes are shown alike, after a mark, and
none beyond ASCII is printable.
-/

namespace ArkLifecycle.Text

/-- (hexDigits width n) writes `n` in lower-case hexadecimal with at least `width` digits. -/
def hexDigits (width n : Nat) : List Char :=
  let digits := Nat.toDigits 16 n
  List.replicate (width - digits.length) '0' ++ digits

/-- (codeEscape n) names a code by two, four or eight hexadecimal digits, whichever are the fewest
that suffice.
-/
def codeEscape (n : Nat) : List Char :=
  if n < 0x100 then
    '\\' :: 'x' :: hexDigits 2 n
  else if n < 0x10000 then
    '\\' :: 'u' :: hexDigits 4 n
  else
    '\\' :: 'U' :: hexDigits 8 n

/-- (shortEscape? letter) is the character that escapes a line end or tab after a backslash. -/
def shortEscape? (letter : Letter) : Option Char :=
  if letter == '\n' then
    some 'n'
  else if letter == '\r' then
    some 'r'
  else if letter == '\t' then
    some 't'
  else
    none

/-- (quotedLetter mark letter) writes one letter inside the quotes `mark`. -/
def quotedLetter (mark : Char) (letter : Letter) : List Letter :=
  if letter == mark || letter == '\\' then
    ['\\', letter]
  else
    match shortEscape? letter with
    | some c => ['\\', c]
    | none => if isPrintable letter then [letter] else (codeEscape letter.code).map Letter.char

/-- (singleQuote) is the quote that messages prefer. -/
def singleQuote : Char := Char.ofNat 0x27

/-- (quoteMark letters) is the quote in which a text is written. -/
def quoteMark (letters : List Letter) : Char :=
  if letters.contains singleQuote && !letters.contains '"' then '"' else singleQuote

/-- (quoted s) is the text `s` in quotes, on one line. -/
def quoted (s : Text) : Text :=
  let mark := quoteMark s.toList
  ⟨.char mark :: s.toList.flatMap (quotedLetter mark) ++ [.char mark]⟩

/-- (quotedByte mark byte) writes one byte inside the quotes `mark`. -/
def quotedByte (mark : Char) (byte : Nat) : List Letter :=
  if byte < 0x80 then
    quotedLetter mark (Char.ofNat byte)
  else
    (codeEscape byte).map Letter.char

/-- (quotedBytes bytes) are bytes in quotes, on one line. -/
def quotedBytes (bytes : List Nat) : Text :=
  let mark := quoteMark (bytes.map fun byte => Letter.ofCode byte)
  ⟨.char 'b' :: .char mark :: bytes.flatMap (quotedByte mark) ++ [.char mark]⟩

end ArkLifecycle.Text
