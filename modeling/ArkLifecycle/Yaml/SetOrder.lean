import ArkLifecycle.Json.Basic

/-! The order in which a set lists its numbers.

A set of numbers is a table of slots, and lists its members slot by slot. A number goes to the slot
of its residue modulo a prime; when that is taken, it tries the slots after it and then jumps. Sets
with other members list them in the order in which they were written.
-/

namespace ArkLifecycle.Yaml

/-- (residueModulus) is the prime whose residues decide about slots. -/
def residueModulus : Nat := Nat.pow 2 61 - 1

/-- (signedResidue negative n) is the residue of a number with its sign. There is none that is minus
one; minus two stands for it.
-/
def signedResidue (negative : Bool) (n : Nat) : Int :=
  let residue : Int := (n % residueModulus : Nat)
  if negative then (if residue = 1 then -2 else -residue) else residue

/-- (residue? s) is the residue of a number. Numbers of equal value have the same one: the powers of
two repeat modulo the prime after sixty-one of them.
-/
def residue? : Scalar → Option Int
  | .bool value => some (if value then 1 else 0)
  | .int value => some (signedResidue (value < 0) value.natAbs)
  | .float (.finite negative mantissa exponent) =>
      some (signedResidue negative (mantissa * Nat.pow 2 (exponent.emod 61).toNat))
  | .float (.infinity negative) => some (if negative then -314159 else 314159)
  | _ => none

/-- (slotCount members) is the number of slots for some members: a power of two, more than twice as
many, and eight for a few.
-/
def slotCount (members : Nat) : Nat :=
  if members < 5 then 8 else max 8 (Nat.pow 2 (Nat.log2 (2 * members) + 1))

/-- A table of slots. -/
abbrev Slots := Array (Option Scalar)

/-- (nearRun) is how many slots in a row are tried, where there are as many. -/
def nearRun : Nat := 10

/-- (freeSlot fuel slots slot spread) is the first free slot from a given one on; `spread` is what
is left of the residue to decide about the next jump.
-/
def freeSlot : Nat → Slots → Nat → Nat → Nat
  | 0, _, slot, _ => slot
  | fuel + 1, slots, slot, spread =>
      let run := if slot + nearRun ≤ slots.size then nearRun else 1
      match (List.range run).find? fun step => slots[slot + step]? == some none with
      | some step => slot + step
      | none =>
          let spread := spread / 32
          freeSlot fuel slots ((5 * slot + 1 + spread) % slots.size) spread

/-- (place slots member residue) puts a member into a free slot. A residue below zero counts from
the greatest word down.
-/
def place (slots : Slots) (member : Scalar) (residue : Int) : Slots :=
  let word := (residue.emod (Nat.pow 2 64)).toNat
  slots.setIfInBounds (freeSlot (slots.size + 64) slots (word % slots.size) word) (some member)

/-- (setOrder members) are the members of a set in the order in which it lists them. -/
def setOrder (members : List Scalar) : List Scalar :=
  match members.mapM residue? with
  | none => members
  | some residues =>
      let empty : Slots := Array.replicate (slotCount members.length) none
      ((members.zip residues).foldl (fun slots (member, residue) => place slots member residue)
        empty).toList.filterMap id

end ArkLifecycle.Yaml
