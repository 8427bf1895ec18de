import ArkLifecycle.Json.Basic

/-! Documents that stand inside of themselves.

Such a document is kept as a place among layers, so that every part that is taken out of it is whole
again. What comes to an end is an ordinary document, wherever it stands.
-/

namespace ArkLifecycle

/-- (Layer.assemble part layer) is the document that begins with a layer, when `part` gives the
documents at other places.
-/
def Layer.assemble {m : Type → Type} [Monad m] (part : Nat → m Json) : Layer → m Json
  | .scalar value => return .scalar value
  | .array items => return .array (← items.mapM part)
  | .object fields => do
      return .object (← fields.mapM fun (name, value) => return (name, ← part value))
  | .pairs listed => do
      return .array (← listed.mapM fun (first, second) => do
        let first ← part first
        return .ofPair first (← part second))
  | .set members => return .set members

namespace Json

/-- (isCyclic v) holds when `v`, or a part of a pair, is a document that comes back to itself. -/
def isCyclic : Json → Bool
  | .cyclic .. => true
  | .pair first second => first.isCyclic || second.isCyclic
  | _ => false

/-- (hasCycle v) holds when a part of `v` comes back to itself. -/
def hasCycle : Json → Bool
  | .array items => items.any isCyclic
  | .object fields => fields.any fun field => field.2.isCyclic
  | _ => false

/-- The documents at the places that were seen so far. -/
abbrev Seen := Array (Option Json)

/-- (Seen.nothing layers) is the state in which no place was seen. -/
def Seen.nothing (layers : Array Layer) : Seen :=
  layers.map fun _ => none

/-- (settle fuel layers place) is the document at a place. While its parts are looked at it counts
as one that comes back to itself: whoever meets it there is inside of it. Every call inside another
one sees a new place, so the number of layers is fuel enough.
-/
def settle : Nat → Array Layer → Nat → StateM Seen Json
  | 0, layers, place => return .cyclic layers place
  | fuel + 1, layers, place => do
      match (← get).getD place none with
      | some known => return known
      | none =>
          modify fun seen => seen.setIfInBounds place (some (.cyclic layers place))
          let v ← (Layer.ofPlace layers place).assemble (settle fuel layers)
          if v.hasCycle then
            return .cyclic layers place
          modify fun seen => seen.setIfInBounds place (some v)
          return v

/-- (ofLayers layers place) is the document at a place. -/
def ofLayers (layers : Array Layer) (place : Nat) : Json :=
  ((settle (layers.size + 1) layers place).run (Seen.nothing layers)).1

/-- (opened v) is `v` with its parts in reach. -/
def opened : Json → Json
  | .cyclic layers place =>
      let parts := (Layer.ofPlace layers place).assemble (settle (layers.size + 1) layers)
      (parts.run (Seen.nothing layers)).1
  | v => v

/-- (unrolled fuel layers seen around place) is the document at a place, where the places `around`
stand around it, up to where one of these begins again.
-/
def unrolled : Nat → Array Layer → Seen → List Nat → Nat → Json
  | 0, _, _, _, _ => .null
  | fuel + 1, layers, seen, around, place =>
      match seen.getD place none with
      | some (.cyclic ..) | none =>
          let layer := Layer.ofPlace layers place
          if around.contains place then
            .again layer.shape
          else
            Id.run (layer.assemble fun part =>
              unrolled fuel layers seen (place :: around) part)
      | some known => known

mutual

/-- (spread v) is `v` as far as it can be shown: where a document begins again inside of itself
there is a mark.
-/
def spread : Json → Json
  | .cyclic layers place =>
      let seen := ((settle (layers.size + 1) layers place).run (Seen.nothing layers)).2
      unrolled (layers.size + 1) layers seen [] place
  | .array items => .array (spreadItems items)
  | .object fields => .object (spreadFields fields)
  | .pair first second => .pair (spread first) (spread second)
  | v => v

/-- (spreadItems items) are the items of a list as far as they can be shown. -/
def spreadItems : List Json → List Json
  | [] => []
  | item :: rest => spread item :: spreadItems rest

/-- (spreadFields fields) are the fields of a mapping as far as they can be shown. -/
def spreadFields : List (Scalar × Json) → List (Scalar × Json)
  | [] => []
  | (name, value) :: rest => (name, spread value) :: spreadFields rest

end

end Json

end ArkLifecycle
