import ArkLifecycle.Files.Emission
import ArkLifecycle.Json.Display
import ArkLifecycle.Text.Unit

/-! Written JSON.

There are two layouts. The compact one stands on one line and is pure ASCII: every other letter is
escaped by its UTF-16 code units, and what JSON does not know is written as the text that shows it.
The indented one puts every item and field on a line of its own, two blanks deeper than its parent,
and escapes only what it must. It is written piece by piece, and what was written before a piece
that cannot be stays.
-/

namespace ArkLifecycle.Json

-----------------------------------------------------------------------------------------
-- Letters

/-- (unitEscape n) escapes one UTF-16 code unit. -/
def unitEscape (n : Nat) : List Char :=
  '\\' :: 'u' :: Text.hexDigits 4 n

/-- (signAfterBackslash? letter) is the character that escapes a letter after a backslash, if there
is one.
-/
def signAfterBackslash? (letter : Letter) : Option Char :=
  match letter with
  | .char '"' => some '"'
  | .char '\\' => some '\\'
  | .char '\n' => some 'n'
  | .char '\r' => some 'r'
  | .char '\t' => some 't'
  | .char '\x0c' => some 'f'
  | .char '\x08' => some 'b'
  | _ => none

/-- (asciiLetter letter) writes one letter of a text in pure ASCII. -/
def asciiLetter (letter : Letter) : List Char :=
  match signAfterBackslash? letter with
  | some sign => ['\\', sign]
  | none =>
      match letter with
      | .char c =>
          if c.toNat < 0x20 || 0x7e < c.toNat then
            (Text.unitsOf letter).flatMap unitEscape
          else
            [c]
      | .half _ => (Text.unitsOf letter).flatMap unitEscape

/-- (asciiText s) writes a text in double quotes and in pure ASCII. -/
def asciiText (s : Text) : List Char :=
  '"' :: s.toList.flatMap asciiLetter ++ ['"']

/-- (plainLetter letter) writes one letter of a text as it is, if it may be. -/
def plainLetter (letter : Letter) : List Letter :=
  match signAfterBackslash? letter with
  | some sign => ['\\', sign]
  | none => if letter.code < 0x20 then (unitEscape letter.code).map Letter.char else [letter]

/-- (plainText s) writes a text in double quotes. -/
def plainText (s : Text) : Text :=
  ⟨.char '"' :: s.toList.flatMap plainLetter ++ [.char '"']⟩

/-- (writtenFloat x) writes a floating-point number. -/
def writtenFloat : Binary64 → String
  | .nan _ => "NaN"
  | .infinity negative => if negative then "-Infinity" else "Infinity"
  | x => x.shortestText

/-- (plainWord? s) is how a scalar is written that is neither a text nor unknown to JSON. -/
def plainWord? : Scalar → Option (Except Fault Text)
  | .null => some (.ok "null")
  | .bool value => some (.ok (if value then "true" else "false"))
  | .int value => some (Text.ofInt value)
  | .float value => some (.ok (writtenFloat value))
  | _ => none

/-- (nameText word name) is the text by which a name is written, if JSON knows it; `word` says what
a shape is called in the message.
-/
def nameText (word : Shape → Text) (name : Scalar) : Except Fault Text :=
  match name, plainWord? name with
  | .text value, _ => .ok value
  | _, some word => word
  | name, none => .error (.notJsonName (word name.shape))

-----------------------------------------------------------------------------------------
-- The compact layout

/-- (asciiOf s) is a text of pure ASCII as characters. -/
def asciiOf (s : Text) : List Char :=
  s.toList.filterMap Letter.char?

/-- (compactScalar room s) writes a scalar on one line of ASCII. A pair is written as a list. -/
def compactScalar : Nat → Scalar → Except Fault (List Char)
  | _, .text value => .ok (asciiText value)
  | 0, .pair .. => .error .nestedTooDeepToWrite
  | room + 1, .pair first second => do
      let first ← compactScalar room first
      return '[' :: first ++ [',', ' '] ++ (← compactScalar room second) ++ [']']
  | _, s =>
      match plainWord? s with
      | some word => word.map asciiOf
      | none => (Json.scalar s).display.map asciiText

mutual

/-- (compactChars room v) writes a document that was spread on one line of ASCII, if lists and
mappings are nested at most `room` deep in it.
-/
def compactChars : Nat → Json → Except Fault (List Char)
  | room, .scalar value => compactScalar room value
  | _, .set members => (Json.set members).display.map asciiText
  | 0, .array _ | 0, .object _ | 0, .pair .. | 0, .cyclic .. | 0, .again _ =>
      .error .nestedTooDeepToWrite
  | room + 1, .array items => do return '[' :: (← compactItems room items) ++ [']']
  | room + 1, .object fields => do return '{' :: (← compactFields room fields) ++ ['}']
  | room + 1, .pair first second => do
      let first ← compactChars room first
      return '[' :: first ++ [',', ' '] ++ (← compactChars room second) ++ [']']
  | _ + 1, .cyclic .. | _ + 1, .again _ => .error .endless

/-- (compactItems room items) writes the items of a list, divided by commas. -/
def compactItems : Nat → List Json → Except Fault (List Char)
  | _, [] => .ok []
  | room, [item] => compactChars room item
  | room, item :: next :: rest => do
      let first ← compactChars room item
      return first ++ [',', ' '] ++ (← compactItems room (next :: rest))

/-- (compactFields room fields) writes the fields of a mapping, divided by commas. -/
def compactFields : Nat → List (Scalar × Json) → Except Fault (List Char)
  | _, [] => .ok []
  | room, [(name, value)] => do
      let name ← nameText Shape.name name
      return asciiText name ++ [':', ' '] ++ (← compactChars room value)
  | room, (name, value) :: next :: rest => do
      let name ← nameText Shape.name name
      let value ← compactChars room value
      return asciiText name ++ [':', ' '] ++ value ++ [',', ' ']
        ++ (← compactFields room (next :: rest))

end

theorem compactChars_null (room : Nat) : compactChars room .null = .ok ['n', 'u', 'l', 'l'] := by
  cases room <;> rfl

theorem compactChars_bool (room : Nat) (value : Bool)
    : compactChars room (.bool value) = .ok (if value then "true" else "false").toList := by
  cases room <;> cases value <;> rfl

theorem compactChars_int (room : Nat) (n : Int)
    : compactChars room (.int n) = (Text.ofInt n).map asciiOf := by
  cases room <;> rfl

theorem compactChars_text (room : Nat) (s : Text)
    : compactChars room (.text s) = .ok (asciiText s) := by
  cases room <;> rfl

/-- (compact v) is the document `v` on one line of ASCII. -/
def compact (v : Json) : Except Fault String :=
  (compactChars depthLimit v.spread).map String.ofList

-----------------------------------------------------------------------------------------
-- The indented layout

/-- (lineStart depth) begins a line at the given depth. -/
def lineStart (depth : Nat) : Text :=
  .ofChars ('\n' :: List.replicate (2 * depth) ' ')

/-- (emitScalar depth lead s) writes a scalar, in one piece with what leads to it. -/
def emitScalar (depth : Nat) (lead : Text) : Scalar → Emission Unit
  | .text value => Emission.write (lead ++ plainText value)
  | .pair first second => do
      Emission.write lead
      emitScalar (depth + 1) ("[" ++ lineStart (depth + 1)) first
      emitScalar (depth + 1) ("," ++ lineStart (depth + 1)) second
      Emission.write (lineStart depth)
      Emission.write "]"
  | s =>
      match plainWord? s with
      | some word => do Emission.write (lead ++ (← word))
      | none => do
          Emission.write lead
          throw (.notJson s.shape)

mutual

/-- (emitValue depth lead v) writes a document that was spread and whose parent line is at the given
depth, after what leads to it.
-/
def emitValue (depth : Nat) (lead : Text) : Json → Emission Unit
  | .scalar value => emitScalar depth lead value
  | .array [] => do
      Emission.write lead
      Emission.write "[]"
  | .array (item :: rest) => do
      Emission.write lead
      emitValue (depth + 1) ("[" ++ lineStart (depth + 1)) item
      emitItems (depth + 1) rest
      Emission.write (lineStart depth)
      Emission.write "]"
  | .object [] => do
      Emission.write lead
      Emission.write "\x7b\x7d"
  | .object ((name, value) :: rest) => do
      Emission.write lead
      Emission.write "\x7b"
      Emission.write (lineStart (depth + 1))
      Emission.write (plainText (← nameText Shape.shortName name))
      Emission.write ": "
      emitValue (depth + 1) "" value
      emitFields (depth + 1) rest
      Emission.write (lineStart depth)
      Emission.write "\x7d"
  | .pair first second => do
      Emission.write lead
      emitValue (depth + 1) ("[" ++ lineStart (depth + 1)) first
      emitValue (depth + 1) ("," ++ lineStart (depth + 1)) second
      Emission.write (lineStart depth)
      Emission.write "]"
  | .set _ => do
      Emission.write lead
      throw (.notJson .set)
  | .cyclic .. | .again _ => do
      Emission.write lead
      throw .endless

/-- (emitItems depth items) writes further items of a list, each on a line of its own. -/
def emitItems (depth : Nat) : List Json → Emission Unit
  | [] => pure ()
  | item :: rest => do
      emitValue depth ("," ++ lineStart depth) item
      emitItems depth rest

/-- (emitFields depth fields) writes further fields of a mapping, each on a line of its own. -/
def emitFields (depth : Nat) : List (Scalar × Json) → Emission Unit
  | [] => pure ()
  | (name, value) :: rest => do
      let name ← nameText Shape.shortName name
      Emission.write ("," ++ lineStart depth)
      Emission.write (plainText name)
      Emission.write ": "
      emitValue depth "" value
      emitFields depth rest

end

/-- (indented v) writes the document `v` with every item and field on a line of its own. -/
def indented (v : Json) : Emission Unit :=
  emitValue 0 "" v.spread

end ArkLifecycle.Json
