import ArkLifecycle.Json.Cycle

/-! Spans: what was done, inside what, and with which attributes.

Every span carries the identity of the run it belongs to, as far as that is known when the span
begins. A span holds a limited number of attributes: one that is set anew becomes the latest, and
when there is no room the earliest goes.
-/

namespace ArkLifecycle

/-- The identity of a run; what is not known is null. -/
structure RunContext where
  analysisId : Json
  runId : Json
  catalogVersion : Json
deriving Repr, Inhabited

/-- A finished span. Whoever begins a span by hand may give it any document as a name. -/
structure Span where
  name : Json
  parent : Option Json
  attributes : Json.Fields
deriving Repr, Inhabited

namespace RunContext

/-- (unknown) is the context outside of any run. -/
def unknown : RunContext := ⟨.null, .null, .null⟩

/-- (enter context analysisId runId version) begins a run; a version that says nothing leaves the
one known before.
-/
def enter (context : RunContext) (analysisId runId version : Json) : RunContext :=
  { analysisId
    runId
    catalogVersion := if version.truthy then version else context.catalogVersion }

/-- (attributes context) are the attributes that every span of the run carries. -/
def attributes (context : RunContext) : Json.Fields :=
  let all : Json.Fields := [
    ("analysis_id", context.analysisId),
    ("run_id", context.runId),
    ("catalog_version", context.catalogVersion)]
  all.filter fun field => field.2.truthy

end RunContext

namespace Span

/-- (isNamed name) holds of the texts that are not empty; only they name an attribute. -/
def isNamed : Scalar → Bool
  | .text name => !name.isEmpty
  | _ => false

mutual

/-- (cleaned value) is what an attribute keeps of a value that was spread: fields without a proper
name are left out at every depth.
-/
def cleaned : Json → Json
  | .scalar value => .scalar value
  | .array items => .array (cleanedItems items)
  | .object fields => .object (cleanedFields fields)
  | .pair first second => .pair (cleaned first) (cleaned second)
  | .set members => .set members
  | .cyclic layers place => .again (Layer.ofPlace layers place).shape
  | .again shape => .again shape

/-- (cleanedItems items) is what an attribute keeps of the items of a list. -/
def cleanedItems : List Json → List Json
  | [] => []
  | item :: rest => cleaned item :: cleanedItems rest

/-- (cleanedFields fields) is what an attribute keeps of the fields of a mapping. -/
def cleanedFields : List (Scalar × Json) → List (Scalar × Json)
  | [] => []
  | (name, value) :: rest =>
      if isNamed name then (name, cleaned value) :: cleanedFields rest else cleanedFields rest

end

/-- (capacity) is the number of attributes that a span holds. -/
def capacity : Nat := 128

/-- (setAttribute attributes name value) sets an attribute, which becomes the latest. -/
def setAttribute (attributes : Json.Fields) (name : Scalar) (value : Json) : Json.Fields :=
  if isNamed name then
    let others := attributes.filter fun known => !known.1.same name
    let room := if others.length == capacity then others.drop 1 else others
    room ++ [(name, cleaned value.spread)]
  else
    attributes

/-- (attributesOf context given) are the attributes of a span: those of the run, then those given.
An absent value sets nothing.
-/
def attributesOf (context : RunContext) (given : Json.Fields) : Json.Fields :=
  (context.attributes ++ given.filter fun field => field.2.shape != .null).foldl
    (fun attributes field => setAttribute attributes field.1 field.2) []

/-- (toJson span) writes a span. -/
def toJson (span : Span) : Json :=
  .object [
    ("name", span.name),
    ("parent", span.parent.getD .null),
    ("attributes", .object span.attributes)]

end Span

end ArkLifecycle
