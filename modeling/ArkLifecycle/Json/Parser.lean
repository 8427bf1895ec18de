import ArkLifecycle.Fault
import ArkLifecycle.Text.Unit

/-! Reading of JSON text.

The reader accepts exactly one document with blanks around it. Beyond the standard it knows
`NaN`, `Infinity` and `-Infinity`. A name that is repeated in a mapping keeps its first place
and its last value. Integers have a limited number of digits, and lists and mappings are nested
only so deep; texts that go beyond are told apart from malformed ones.
-/

namespace ArkLifecycle.Json

/-- (isSpace c) holds of the blanks that may stand between the parts of a document. -/
def isSpace (c : Char) : Bool :=
  c == ' ' || c == '\n' || c == '\r' || c == '\t'

/-- (skipSpace cs) is `cs` without its leading blanks. -/
def skipSpace (cs : List Char) : List Char :=
  cs.dropWhile isSpace

/-- (hexDigit? c) is the value of a hexadecimal digit. -/
def hexDigit? (c : Char) : Option Nat :=
  if c.isDigit then
    some (c.toNat - 0x30)
  else if 'a' ≤ c && c ≤ 'f' then
    some (c.toNat - 0x57)
  else if 'A' ≤ c && c ≤ 'F' then
    some (c.toNat - 0x37)
  else
    none

/-- (codeUnit? a b c d) is the UTF-16 code unit written by four hexadecimal digits. -/
def codeUnit? (a b c d : Char) : Option Nat := do
  let a ← hexDigit? a
  let b ← hexDigit? b
  let c ← hexDigit? c
  let d ← hexDigit? d
  return ((a * 16 + b) * 16 + c) * 16 + d

/-- (escapedChar? c) is the character that `c` stands for after a backslash. -/
def escapedChar? (c : Char) : Option Char :=
  match c with
  | '"' => some '"'
  | '\\' => some '\\'
  | '/' => some '/'
  | 'n' => some '\n'
  | 'r' => some '\r'
  | 't' => some '\t'
  | 'f' => some '\x0c'
  | 'b' => some '\x08'
  | _ => none

/-- (readChars done cs) reads a text up to its closing quote; `done` holds the letters read so far,
the last one first.
-/
def readChars (done : List Letter) : List Char → Except Fault (Text × List Char)
  | [] => .error .malformedJson
  | '"' :: rest => .ok (⟨done.reverse⟩, rest)
  | '\\' :: 'u' :: a :: b :: c :: d :: '\\' :: 'u' :: e :: f :: g :: h :: rest =>
      match codeUnit? a b c d with
      | none => .error .malformedJson
      | some high =>
          match Text.isLeading high, codeUnit? e f g h with
          | true, none => .error .malformedJson
          | true, some low =>
              if Text.isTrailing low then
                readChars (.char (Text.ofPair high low) :: done) rest
              else
                readChars (Letter.ofCode high :: done) ('\\' :: 'u' :: e :: f :: g :: h :: rest)
          | false, _ =>
              readChars (Letter.ofCode high :: done) ('\\' :: 'u' :: e :: f :: g :: h :: rest)
  | '\\' :: 'u' :: a :: b :: c :: d :: rest =>
      match codeUnit? a b c d with
      | none => .error .malformedJson
      | some unit => readChars (Letter.ofCode unit :: done) rest
  | '\\' :: c :: rest =>
      match escapedChar? c with
      | none => .error .malformedJson
      | some escaped => readChars (escaped :: done) rest
  | c :: rest =>
      if c.toNat < 0x20 || c == '\\' then
        .error .malformedJson
      else
        readChars (c :: done) rest

/-- (digitsValue cs) is the natural number that the ASCII digits `cs` write. -/
def digitsValue (cs : List Char) : Nat :=
  cs.foldl (fun value c => 10 * value + (c.toNat - 0x30)) 0

/-- (readWhole cs) reads the digits before the point: a zero, or digits that begin otherwise. -/
def readWhole : List Char → Option (List Char × List Char)
  | '0' :: rest => some (['0'], rest)
  | cs => if (cs.takeWhile Char.isDigit).isEmpty then none else some (cs.span Char.isDigit)

/-- (readFraction cs) reads a point and the digits after it, or nothing. -/
def readFraction : List Char → Option (List Char) × List Char
  | '.' :: rest =>
      match rest.span Char.isDigit with
      | ([], _) => (none, '.' :: rest)
      | (digits, more) => (some digits, more)
  | cs => (none, cs)

/-- (readPower cs) reads an exponent, or nothing. -/
def readPower (cs : List Char) : Option Int × List Char :=
  match cs with
  | e :: rest =>
      if e == 'e' || e == 'E' then
        let (negative, digits) :=
          match rest with
          | '-' :: more => (true, more)
          | '+' :: more => (false, more)
          | more => (false, more)
        match digits.span Char.isDigit with
        | ([], _) => (none, cs)
        | (power, more) =>
            let value : Int := digitsValue power
            (some (if negative then -value else value), more)
      else
        (none, cs)
  | [] => (none, cs)

/-- (readMagnitude negative cs) reads a number after its sign. -/
def readMagnitude (negative : Bool) (cs : List Char) : Except Fault (Json × List Char) :=
  match readWhole cs with
  | none => .error .malformedJson
  | some (whole, rest) =>
      let (part, rest) := readFraction rest
      let (power, rest) := readPower rest
      match part, power with
      | none, none =>
          if Fault.numeralLimit < whole.length then
            .error (.integerTooLong whole.length)
          else
            let value : Int := digitsValue whole
            .ok (.int (if negative then -value else value), rest)
      | part, power =>
          let digits := part.getD []
          let exponent := power.getD 0 - (digits.length : Int)
          .ok (.float (.ofDecimal negative (digitsValue (whole ++ digits)) exponent), rest)

/-- (readPlain cs) reads a word or a number. -/
def readPlain : List Char → Except Fault (Json × List Char)
  | 'n' :: 'u' :: 'l' :: 'l' :: rest => .ok (null, rest)
  | 't' :: 'r' :: 'u' :: 'e' :: rest => .ok (bool true, rest)
  | 'f' :: 'a' :: 'l' :: 's' :: 'e' :: rest => .ok (bool false, rest)
  | 'N' :: 'a' :: 'N' :: rest => .ok (float (.nan 0), rest)
  | 'I' :: 'n' :: 'f' :: 'i' :: 'n' :: 'i' :: 't' :: 'y' :: rest =>
      .ok (float (.infinity false), rest)
  | '-' :: 'I' :: 'n' :: 'f' :: 'i' :: 'n' :: 'i' :: 't' :: 'y' :: rest =>
      .ok (float (.infinity true), rest)
  | '-' :: rest => readMagnitude true rest
  | cs => readMagnitude false cs

mutual

/-- (readValue fuel room cs) reads one document at the beginning of `cs`, in which lists and
mappings are nested at most `room` deep. Of two nested calls one uses up a character, so twice the
length of the text is fuel enough.
-/
def readValue : Nat → Nat → List Char → Except Fault (Json × List Char)
  | 0, _, _ => .error .malformedJson
  | fuel + 1, room, cs =>
      match cs with
      | '"' :: rest =>
          match readChars [] rest with
          | .error fault => .error fault
          | .ok (value, more) => .ok (text value, more)
      | '[' :: rest =>
          match room, skipSpace rest with
          | 0, _ => .error (.nestedTooDeep .array)
          | _ + 1, ']' :: more => .ok (.array [], more)
          | room + 1, more => readItems fuel room [] more
      | '{' :: rest =>
          match room, skipSpace rest with
          | 0, _ => .error (.nestedTooDeep .object)
          | _ + 1, '}' :: more => .ok (.object [], more)
          | room + 1, more => readFields fuel room [] more
      | _ => readPlain cs

/-- (readItems fuel room done cs) reads the items of a list up to its closing bracket. -/
def readItems : Nat → Nat → List Json → List Char → Except Fault (Json × List Char)
  | 0, _, _, _ => .error .malformedJson
  | fuel + 1, room, done, cs =>
      match readValue fuel room cs with
      | .error fault => .error fault
      | .ok (item, rest) =>
          match skipSpace rest with
          | ',' :: more => readItems fuel room (item :: done) (skipSpace more)
          | ']' :: more => .ok (.array (item :: done).reverse, more)
          | _ => .error .malformedJson

/-- (readFields fuel room done cs) reads the fields of a mapping up to its closing brace. -/
def readFields : Nat → Nat → Fields → List Char → Except Fault (Json × List Char)
  | 0, _, _, _ => .error .malformedJson
  | fuel + 1, room, done, cs =>
      match cs with
      | '"' :: rest =>
          match readChars [] rest with
          | .error fault => .error fault
          | .ok (name, rest) =>
              match skipSpace rest with
              | ':' :: rest =>
                  match readValue fuel room (skipSpace rest) with
                  | .error fault => .error fault
                  | .ok (value, rest) =>
                      match skipSpace rest with
                      | ',' :: more => readFields fuel room (put done name value) (skipSpace more)
                      | '}' :: more => .ok (.object (put done name value), more)
                      | _ => .error .malformedJson
              | _ => .error .malformedJson
      | _ => .error .malformedJson

end

/-- (parse s) is the document that the text `s` writes. -/
def parse (s : String) : Except Fault Json :=
  let cs := skipSpace s.toList
  match readValue (2 * cs.length + 2) depthLimit cs with
  | .ok (value, rest) =>
      if (skipSpace rest).isEmpty then .ok value else .error .malformedJson
  | .error fault => .error fault

end ArkLifecycle.Json
