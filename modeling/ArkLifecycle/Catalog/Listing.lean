import ArkLifecycle.Catalog.Basic
import ArkLifecycle.Json.Display

/-! A catalog laid out as a JSON document, with what it says about single names.

This is for those who look into a catalog after it was read. An analysis asks the catalog itself.
-/

namespace ArkLifecycle.Catalog

/-- (sortedNames names) lists names in the order in which they are shown. -/
def sortedNames (names : List Scalar) : Except Fault Json := do
  let shown ← names.mapM fun name => return ((← (Json.scalar name).display), name)
  let ordered := shown.mergeSort fun a b => !b.1.precedes a.1
  return .array (ordered.map fun item => .scalar item.2)

/-- (kindNames kinds) lists kinds by their names. -/
def kindNames (kinds : List Kind) : Json :=
  Json.texts (kinds.map Kind.name)

/-- (recognition catalog name) says for which kinds and roles a name is known. -/
def recognition (catalog : Catalog) (name : Scalar) : Json :=
  .object [
    ("kinds", kindNames (Kind.all.filter fun kind => catalog.recognizes kind name)),
    ("roles", Json.texts
      ((Role.all.filter fun role => catalog.roleRecognizes role name).map Role.name))]

/-- (Recommendation.toJson advice) lists the parts of a recommendation. -/
def Recommendation.toJson (advice : Recommendation) : Json :=
  Json.texts [advice.name, advice.kind.name, advice.reason]

/-- (fields catalog) are the parts of a catalog, and which kinds there are for each role. -/
def fields (catalog : Catalog) : Except Fault Json.Fields := do
  return [
    ("describe", catalog.describe),
    ("names", .object
      (Kind.all.map fun kind => (kind.name, .array ((catalog.names kind).map Json.scalar)))),
    ("ability_bases", ← sortedNames catalog.abilityBases),
    ("component_bases", ← sortedNames catalog.componentBases),
    ("component_markers", .array catalog.componentMarkers),
    ("entry_markers", .array catalog.entryMarkers),
    ("synthetic_class_patterns", .array catalog.syntheticPatterns),
    ("weak_risk_signals", .bool catalog.weakSignals),
    ("recommendations", .array (catalog.recommendations.map Recommendation.toJson)),
    ("kinds_for_role", .object
      (Role.all.map fun role => (role.name, kindNames (catalog.kindsFor role))))]

end ArkLifecycle.Catalog
