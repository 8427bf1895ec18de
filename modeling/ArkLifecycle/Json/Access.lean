import ArkLifecycle.Json.Display
import ArkLifecycle.Number.Fixed
import ArkLifecycle.Number.IntegerText

/-! Looking into documents that nobody has validated.

Every operation says which fault arises when the document does not have the shape it needs.
Lists, pairs and sets yield their items, texts their letters, bytes their numbers and mappings
their names. A document that stands inside of itself is opened for that.
-/

namespace ArkLifecycle.Json

/-- (field? v name) is the value of the field `name`; only mappings have fields. -/
def field? (v : Json) (name : Text) : Except Fault (Option Json) :=
  match v.opened with
  | .object fields => .ok (lookup fields name)
  | v => .error (.noCapability v.shape "get")

/-- (fieldD v name default) is the value of the field `name`, or a default without one. -/
def fieldD (v : Json) (name : Text) (default : Json) : Except Fault Json :=
  return (← v.field? name).getD default

/-- (items v) are the parts of `v` in order. -/
def items (v : Json) : Except Fault (List Json) :=
  match v.opened with
  | .array items => .ok items
  | .text value => .ok (value.toList.map fun letter => text ⟨[letter]⟩)
  | .scalar (.bytes value) => .ok (value.map ofNat)
  | .scalar (.pair first second) => .ok [scalar first, scalar second]
  | .object fields => .ok (fields.map fun field => scalar field.1)
  | .pair first second => .ok [first, second]
  | .set members => .ok (members.map scalar)
  | v => .error (.notIterable v.shape)

/-- (fields? v) are the fields of `v`, if it is a mapping. -/
def fields? (v : Json) : Option Fields :=
  match v.opened with
  | .object fields => some fields
  | _ => none

/-- (itemsOrNone v) are the parts of `v`, and none when `v` is absent or empty in any sense. -/
def itemsOrNone : Option Json → Except Fault (List Json)
  | none => .ok []
  | some v => if v.truthy then v.items else .ok []

/-- (listField v name) are the parts of the field `name`, none without one. -/
def listField (v : Json) (name : Text) : Except Fault (List Json) := do
  itemsOrNone (← v.field? name)

/-- (name? v) is `v` as a name. A pair is one when both of its parts are. -/
def name? : Json → Except Fault Scalar
  | .scalar value => .ok value
  | .pair first second => do
      let first ← first.name?
      return .pair first (← second.name?)
  | v => .error (.notAName v.shape)

/-- (names vs) reads all of `vs` as names and drops repetitions. -/
def names (vs : List Json) : Except Fault (List Scalar) := do
  return Scalar.distinct (← vs.mapM name?)

/-- (toInt v) is `v` as an integer: truth values count, fractional digits are dropped, and texts
and bytes are read.
-/
def toInt : Json → Except Fault Int
  | .bool value => .ok (if value then 1 else 0)
  | .int value => .ok value
  | .float value =>
      match value, value.truncate? with
      | _, some whole => .ok whole
      | .nan _, none => .error .undefinedInteger
      | _, none => .error .infiniteInteger
  | .text value => readInteger 10 value
  | .scalar (.bytes value) => readByteInteger value
  | v => .error (.notNumeric v.shape)

/-- (countField v name) is the field `name` as an integer; an absent or empty one is zero. -/
def countField (v : Json) (name : Text) : Except Fault Int := do
  match ← v.field? name with
  | none => return 0
  | some value => if value.truthy then value.toInt else return 0

/-- (textField v name) is the field `name` as it is displayed, empty without one. -/
def textField (v : Json) (name : Text) : Except Fault Text := do
  match ← v.field? name with
  | none => return ""
  | some value => value.display

/-- (textFieldOrNone v name) is the field `name` as it is displayed; an absent or empty one is
the empty text.
-/
def textFieldOrNone (v : Json) (name : Text) : Except Fault Text := do
  match ← v.field? name with
  | none => return ""
  | some value => if value.truthy then value.display else return ""

/-- (pathText v) is `v` as a written path. -/
def pathText : Json → Except Fault Text
  | .text written => .ok written
  | v => .error (.notAPath v.shape)

/-- (part v name) is the part of `v` called `name`, which must be there. -/
def part (v : Json) (name : Text) : Except Fault Json :=
  match v.opened with
  | .object fields =>
      match lookup fields name with
      | some value => .ok value
      | none => .error (.missingKey name)
  | .text _ => .error .textPart
  | .array _ => .error (.listPart .text)
  | v => .error (.noParts v.shape)

/-- (withPart v name value) is `v` with its part `name` replaced or added. -/
def withPart (v : Json) (name : Scalar) (value : Json) : Except Fault Json :=
  match v.opened with
  | .object fields => .ok (.object (put fields name value))
  | .array _ => .error (.listPart name.shape)
  | v => .error (.notAssignable v.shape)

/-- (fixed places v) writes a number with fixed decimal places. -/
def fixed (places : Nat) : Json → Except Fault Text
  | .bool value => .ok ((Binary64.ofNat (if value then 1 else 0)).fixedText places)
  | .int value =>
      match Binary64.ofInt value with
      | .infinity _ => .error .integerTooLarge
      | number => .ok (number.fixedText places)
  | .float value => .ok (value.fixedText places)
  | v => .error (.noDecimals v.shape)

/-- (isReachedBy limit count) holds when `count` is at least the number `limit`. -/
def isReachedBy (limit : Json) (count : Nat) : Except Fault Bool :=
  match limit with
  | .bool value => .ok ((if value then 1 else 0) ≤ count)
  | .int value => .ok (value ≤ (count : Int))
  | .float value => .ok (value.leInt count)
  | v => .error (.notABound v.shape)

/-- (unpack v) are the two parts of `v`. -/
def unpack (v : Json) : Except Fault (Json × Json) :=
  match v.items with
  | .ok [first, second] => .ok (first, second)
  | .ok parts => .error (.unpackLength parts.length)
  | .error _ => .error (.notUnpackable v.shape)

/-- (pairOf index v) reads a pair of parts. -/
def pairOf (index : Nat) (v : Json) : Except Fault (Json × Json) :=
  match v.items with
  | .ok [first, second] => .ok (first, second)
  | .ok parts => .error (.pairLength index parts.length)
  | .error _ => .error (.notAPair index)

/-- (pairs index fields vs) puts pairs one after the other as fields. -/
def pairs (index : Nat) (fields : Fields) : List Json → Except Fault Fields
  | [] => .ok fields
  | v :: rest => do
      let (name, value) ← pairOf index v
      pairs (index + 1) (put fields (← name.name?) value) rest

/-- (toFields v) is `v` as a mapping: a mapping itself, or a list of pairs. -/
def toFields (v : Json) : Except Fault Fields :=
  match v.opened with
  | .object fields => .ok fields
  | v => do pairs 0 [] (← v.items)

end ArkLifecycle.Json
