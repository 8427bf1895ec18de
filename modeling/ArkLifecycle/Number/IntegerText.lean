import ArkLifecycle.Fault
import ArkLifecycle.Text.Blank
import ArkLifecycle.Text.Digit

/-! Integers written by hand.

Blanks other than the information separators may surround the integer, a sign may lead it, and
single underscores may stand between two digits. The digits may be those of any script. An integer
may be written to another base than ten, and then a mark for that base may lead the digits; the
number of decimal digits is limited.
-/

namespace ArkLifecycle

/-- (isMargin letter) holds of the blanks that may surround a number. -/
def isMargin (letter : Letter) : Bool :=
  Text.isBlank letter && !(0x1c ≤ letter.code && letter.code ≤ 0x1f)

/-- (withoutMargins letters) drops the blanks around a number. -/
def withoutMargins (letters : List Letter) : List Letter :=
  ((letters.dropWhile isMargin).reverse.dropWhile isMargin).reverse

/-- (letterValue? letter) is the value of a letter of ASCII as a digit beyond nine. -/
def letterValue? (letter : Letter) : Option Nat :=
  let n := letter.code
  if 0x41 ≤ n ∧ n < 0x5b then
    some (n - 0x41 + 10)
  else if 0x61 ≤ n ∧ n < 0x7b then
    some (n - 0x61 + 10)
  else
    none

/-- (digitOf? base letter) is the value of a digit to some base. -/
def digitOf? (base : Nat) (letter : Letter) : Option Nat :=
  ((Text.digitValue? letter).orElse fun _ => letterValue? letter).filter (· < base)

/-- (digitRun base letters) are the values of the digits at the beginning, and what follows them.
An underscore may stand between two digits.
-/
def digitRun (base : Nat) : List Letter → List Nat × List Letter
  | .char '_' :: letter :: rest =>
      match digitOf? base letter with
      | some digit =>
          let (more, rest) := digitRun base rest
          (digit :: more, rest)
      | none => ([], .char '_' :: letter :: rest)
  | letter :: rest =>
      match digitOf? base letter with
      | some digit =>
          let (more, rest) := digitRun base rest
          (digit :: more, rest)
      | none => ([], letter :: rest)
  | [] => ([], [])

/-- (baseMarks base) are the letters that mark a base after a zero. -/
def baseMarks (base : Nat) : List Letter :=
  if base = 2 then
    ['b', 'B']
  else if base = 8 then
    ['o', 'O']
  else if base = 16 then
    ['x', 'X']
  else
    []

/-- (withoutMark base letters) drops the mark of a base, and an underscore after it. -/
def withoutMark (base : Nat) (letters : List Letter) : List Letter :=
  match letters with
  | .char '0' :: mark :: rest =>
      if (baseMarks base).contains mark then
        match rest with
        | .char '_' :: rest => rest
        | rest => rest
      else
        letters
  | _ => letters

/-- (readUnsigned base shown letters) reads at least one digit and nothing else; an underscore does
not lead. What is shown is for the message. An underscore that leads to no digit is noticed before
the number of digits, and all else after it.
-/
def readUnsigned (base : Nat) (shown : Text) (letters : List Letter) : Except Fault Int :=
  let letters := withoutMark base letters
  match digitRun base letters with
  | (digits, rest) =>
      if digits.isEmpty || letters.head? == some (.char '_')
          || rest.head? == some (.char '_') then
        .error (.badInteger base shown)
      else if base = 10 ∧ Fault.numeralLimit < digits.length then
        .error (.integerTooLong digits.length)
      else if rest.isEmpty then
        .ok ((digits.foldl (fun value digit => base * value + digit) 0 : Nat) : Int)
      else
        .error (.badInteger base shown)

/-- (readSigned base shown letters) reads an integer to some base, with blanks and a sign. -/
def readSigned (base : Nat) (shown : Text) (letters : List Letter) : Except Fault Int :=
  match withoutMargins letters with
  | .char '+' :: rest => readUnsigned base shown rest
  | .char '-' :: rest => (readUnsigned base shown rest).map fun n => -n
  | letters => readUnsigned base shown letters

/-- (readInteger base s) is the integer that the text `s` writes to some base. -/
def readInteger (base : Nat) (s : Text) : Except Fault Int :=
  readSigned base s.quoted s.toList

/-- (readByteInteger bytes) is the integer that bytes write; none beyond ASCII is a digit. -/
def readByteInteger (bytes : List Nat) : Except Fault Int :=
  let letters := bytes.map fun byte => Letter.ofCode (if byte < 0x80 then byte else 0x3f)
  readSigned 10 (Text.quotedBytes bytes) letters

end ArkLifecycle
