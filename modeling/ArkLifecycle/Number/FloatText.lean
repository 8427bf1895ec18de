import ArkLifecycle.Number.IntegerText

/-! Floating-point numbers written by hand.

A number has digits, with a point before, between or after them, and may have an exponent. Blanks
may surround it and a sign may lead it; the digits may be those of any script. The words for
infinity and for the undefined number may be written in small and capital letters.
-/

namespace ArkLifecycle

/-- (decimalRun letters) are the values of the digits at the beginning, and what follows them. -/
def decimalRun : List Letter → List Nat × List Letter
  | [] => ([], [])
  | letter :: rest =>
      match Text.digitValue? letter with
      | some digit =>
          let (more, rest) := decimalRun rest
          (digit :: more, rest)
      | none => ([], letter :: rest)

/-- (decimalValue digits) is the number that decimal digits write. -/
def decimalValue (digits : List Nat) : Nat :=
  digits.foldl (fun value digit => 10 * value + digit) 0

/-- (splitSign letters) takes the sign off a number; true stands for minus. -/
def splitSign : List Letter → Bool × List Letter
  | .char '-' :: rest => (true, rest)
  | .char '+' :: rest => (false, rest)
  | letters => (false, letters)

/-- (readExponent? letters) reads an exponent, or nothing at all, up to the end. -/
def readExponent? : List Letter → Option Int
  | [] => some 0
  | mark :: rest =>
      if mark == 'e' || mark == 'E' then
        let (negative, letters) := splitSign rest
        match decimalRun letters with
        | ([], _) => none
        | (digits, []) =>
            let value : Int := decimalValue digits
            some (if negative then -value else value)
        | _ => none
      else
        none

/-- (readPart letters) reads a point and the digits after it, or nothing. -/
def readPart : List Letter → List Nat × List Letter
  | .char '.' :: rest => decimalRun rest
  | letters => ([], letters)

/-- (floatWords) are the words for numbers that have no digits. -/
def floatWords : List (Text × (Bool → Binary64)) :=
  [("inf", .infinity), ("infinity", .infinity), ("nan", fun _ => .nan 0)]

/-- (lowerAscii letter) is the small form of a letter of ASCII. -/
def lowerAscii (letter : Letter) : Letter :=
  if 0x41 ≤ letter.code ∧ letter.code < 0x5b then .ofCode (letter.code + 0x20) else letter

/-- (readFloat? s) is the floating-point number that the text `s` writes. -/
def readFloat? (s : Text) : Option Binary64 :=
  let (negative, letters) := splitSign (withoutMargins s.toList)
  match floatWords.find? fun word => word.1.toList == letters.map lowerAscii with
  | some (_, number) => some (number negative)
  | none =>
      let (whole, rest) := decimalRun letters
      let (part, rest) := readPart rest
      if whole.isEmpty && part.isEmpty then
        none
      else
        (readExponent? rest).map fun power =>
          .ofDecimal negative (decimalValue (whole ++ part)) (power - (part.length : Int))

/-- (readFloat s) is the floating-point number that the text `s` writes. -/
def readFloat (s : Text) : Except Fault Binary64 :=
  match readFloat? s with
  | some number => .ok number
  | none => .error (.badFloat s)

end ArkLifecycle
