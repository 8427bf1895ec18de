import ArkLifecycle.Json.Basic

/-! When two documents are the same.

Lists are the same when their items are, one by one; the order of the fields of a mapping and of the
members of a set means nothing. Documents that stand inside of themselves are the same when they
stand at the same place. An undefined number is the same as itself, although it is equal to no
number, and so not to itself.
-/

namespace ArkLifecycle.Json

/-- (sameMembers xs ys) holds when two sets have the same members. -/
def sameMembers (xs ys : List Scalar) : Bool :=
  xs.length == ys.length && xs.all fun x => ys.any x.same

mutual

/-- (same v w) holds when two documents are the same. -/
def same : Json → Json → Bool
  | .scalar s, .scalar t => s.same t
  | .array xs, .array ys => sameItems xs ys
  | .object fields, .object more => fields.length == more.length && sameFields fields more
  | .pair a b, .pair c d => same a c && same b d
  | .set xs, .set ys => sameMembers xs ys
  | .cyclic _ place, .cyclic _ other => place == other
  | .again s, .again t => s == t
  | _, _ => false

/-- (sameItems vs ws) holds when two lists are the same item by item. -/
def sameItems : List Json → List Json → Bool
  | [], [] => true
  | v :: vs, w :: ws => same v w && sameItems vs ws
  | _, _ => false

/-- (sameFields fields more) holds when `more` has every one of the fields. -/
def sameFields : List (Scalar × Json) → List (Scalar × Json) → Bool
  | [], _ => true
  | (name, v) :: rest, more =>
      (match lookup more name with
        | some w => same v w
        | none => false)
      && sameFields rest more

end

/-- (isDefined v) holds of every document but an undefined number. -/
def isDefined : Json → Bool
  | .float value => value.isDefined
  | _ => true

/-- (equal v w) holds when two documents have equal values. -/
def equal (v w : Json) : Bool :=
  v.isDefined && v.same w

/-- Documents are compared by what they are. -/
instance : BEq Json := ⟨same⟩

/-- A document names what a document that is the same names. -/
instance : Name Json := ⟨same⟩

end ArkLifecycle.Json
