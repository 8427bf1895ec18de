import ArkLifecycle.Number.FloatText
import ArkLifecycle.Text.Lower
import ArkLifecycle.Yaml.Base64
import ArkLifecycle.Yaml.Tag

/-! The values of scalars.

The tag of a scalar says how its text is read. A text that a plain scalar would not be read from
may stand behind a tag; then it is read as far as it goes, and what does not make a value is a
fault. Underscores in numbers mean nothing.
-/

namespace ArkLifecycle.Yaml

/-- (withoutUnderscores s) drops the underscores of a number. -/
def withoutUnderscores (s : Text) : Text :=
  ⟨s.toList.filter (· != '_')⟩

/-- (magnitude letters) is the integer that is written without a sign. A zero in front means the
base eight, unless it belongs to the mark of another base.
-/
def magnitude (letters : List Letter) : Except Fault Int :=
  match letters with
  | [] => .error .emptyNumeral
  | [.char '0'] => .ok 0
  | .char '0' :: .char 'b' :: digits => readInteger 2 ⟨digits⟩
  | .char '0' :: .char 'x' :: digits => readInteger 16 ⟨digits⟩
  | .char '0' :: _ => readInteger 8 ⟨letters⟩
  | _ => do
      let parts ← (partsAt (.char ':') letters).mapM fun part => readInteger 10 ⟨part⟩
      return parts.foldl (fun value part => 60 * value + part) 0

/-- (integerValue s) is the integer that a text writes. -/
def integerValue (s : Text) : Except Fault Int := do
  let (negative, letters) := splitSign (withoutUnderscores s).toList
  let value ← magnitude letters
  return if negative then -value else value

/-- (sumInSixties unit sum parts) adds the digits of a number to the base sixty, the last first;
every step rounds. `unit` is the power of sixty of the next one.
-/
def sumInSixties (unit : Nat) (sum : Binary64) : List Binary64 → Except Fault Binary64
  | [] => .ok sum
  | part :: more =>
      match Binary64.ofNat unit with
      | .infinity _ => .error .integerTooLarge
      | factor => sumInSixties (60 * unit) (sum.add (part.mul factor)) more

/-- (commonPayload) is the payload of the undefined number that has a spelling of its own. -/
def commonPayload : Nat := 1

/-- (payloadAt place) is the payload of an undefined number that was made at a place. -/
def payloadAt (place : Nat) : Nat := commonPayload + 1 + place

/-- (floatMagnitude place letters) is the floating-point number that is written at a place without
a sign and in small letters.
-/
def floatMagnitude (place : Nat) (letters : List Letter) : Except Fault Binary64 :=
  let s : Text := ⟨letters⟩
  if s == ".inf" then
    .ok (.infinity false)
  else if s == ".nan" then
    .ok (.nan commonPayload)
  else
    match partsAt (.char ':') letters with
    | [_] => return (← readFloat s).withPayload (payloadAt place)
    | parts => do
        let parts ← parts.mapM fun part => readFloat ⟨part⟩
        return (← sumInSixties 1 .zero parts.reverse).withPayload (payloadAt place)

/-- (floatValue place s) is the floating-point number that a text writes at a place. -/
def floatValue (place : Nat) (s : Text) : Except Fault Binary64 := do
  let s := (withoutUnderscores s).lower
  if s.isEmpty then
    throw .emptyNumeral
  let (negative, letters) := splitSign s.toList
  let value ← floatMagnitude place letters
  return if negative then value.negate else value

/-- (boolSpellings) are the small spellings of truth values. -/
def boolSpellings : List (Text × Bool) :=
  [("yes", true), ("no", false), ("true", true), ("false", false), ("on", true), ("off", false)]

/-- (boolValue s) is the truth value that a text writes. -/
def boolValue (s : Text) : Except Fault Bool :=
  match Json.lookup boolSpellings s.lower with
  | some value => .ok value
  | none => .error (.missingKey s.lower)

/-- (bytesValue s) are the bytes that a text writes. -/
def bytesValue (s : Text) : Except Fault (List Nat) :=
  match s.chars?.bind decodeBytes? with
  | some bytes => .ok bytes
  | none => .error .malformedYaml

/-- (stampValue s) is the day or moment that a text writes. -/
def stampValue (s : Text) : Except Fault Scalar :=
  match s.chars?.bind stampText? with
  | some stamp =>
      match stamp.value with
      | .ok value => .ok value
      | .error fault => .error (.calendar fault)
  | none => .error (.noCapability .null "groupdict")

/-- (scalarValue place tag s) is the value of the scalar at a place. Collections are no scalars, and
keys with a meaning of their own are no values.
-/
def scalarValue (place : Nat) (tag : Tag) (s : Text) : Except Fault Scalar :=
  match tag with
  | .null => .ok .null
  | .bool => (boolValue s).map Scalar.bool
  | .int => (integerValue s).map Scalar.int
  | .float => (floatValue place s).map Scalar.float
  | .bytes => (bytesValue s).map Scalar.bytes
  | .stamp => stampValue s
  | .text => .ok (.text s)
  | _ => .error .malformedYaml

end ArkLifecycle.Yaml
