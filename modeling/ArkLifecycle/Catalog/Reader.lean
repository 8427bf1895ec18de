import ArkLifecycle.Catalog.Builtin
import ArkLifecycle.Files.Tree
import ArkLifecycle.Json.Access
import ArkLifecycle.Json.Parser
import ArkLifecycle.Yaml.Document

/-! Reading a catalog from a file.

A catalog file is a mapping with a version, the callback names of every kind, what tells the role
of a class, and recommendations. Files that end in `.yaml` or `.yml` are YAML, all others JSON.
-/

namespace ArkLifecycle.Catalog

/-- (readDocument path text) is the document in a catalog file; an empty YAML file counts as a
mapping without fields.
-/
def readDocument (path : Path) (text : String) : Except Fault Json :=
  if path.suffix == ".yaml" || path.suffix == ".yml" then
    (Yaml.parse text).map fun v => if v.truthy then v else .object []
  else
    Json.parse text

/-- (recommendationIn fields) is the recommendation that a mapping gives, when its kind is known and
its name and reason can be shown.
-/
def recommendationIn (fields : Json.Fields) : Except Fault Recommendation := do
  let kind := (Json.lookup fields "kind").getD .null
  let name ← ((Json.lookup fields "name").getD .null).display
  match Kind.ofJson? kind with
  | some kind =>
      return { name, kind, reason := ← ((Json.lookup fields "reason").getD (.text "")).display }
  | none => throw (.unknownKind (← kind.quoted))

/-- (readRecommendation version fields) reads a recommendation. Whatever is wrong with it, its kind
is shown.
-/
def readRecommendation (version : Text) (fields : Json.Fields)
    : Except Fault Recommendation :=
  match recommendationIn fields with
  | .ok recommendation => .ok recommendation
  | .error _ => do
      throw (.badRecommendation version (← ((Json.lookup fields "kind").getD .null).quoted))

/-- (adviceIn items) are the mappings among the items; all others are no recommendations. -/
def adviceIn (items : List Json) : List Json.Fields :=
  items.filterMap Json.fields?

/-- (tableField table name default) are the items of a field of the classification table. -/
def tableField (table : Json.Fields) (name : Text) (default : List Json)
    : Except Fault (List Json) :=
  match Json.lookup table name with
  | none => .ok default
  | some v => Json.itemsOrNone (some v)

/-- (listedMethods v) are the callback lists of a catalog; at least one must not be empty. -/
def listedMethods (v : Option Json) : Except Fault Json.Fields :=
  match v.bind Json.fields? with
  | some fields =>
      if fields.any fun field => field.2.truthy then
        .ok fields
      else
        .error .catalogWithoutMethods
  | none => .error .catalogWithoutMethods

/-- (ofDocument v) reads a catalog. -/
def ofDocument (v : Json) : Except Fault Catalog := do
  let version ← v.fieldD "version" .null
  if !version.truthy then
    throw .catalogWithoutVersion
  let methods ← listedMethods (← v.field? "methods")
  let table ← (match ← v.field? "classification" with
    | some table => if table.truthy then table.toFields else .ok []
    | none => .ok [])
  let listed (kind : Kind) : Except Fault (List Json) :=
    Json.itemsOrNone (Json.lookup methods kind.name)
  let abilities ← listed .ability
  let components ← listed .component
  let callbacks ← listed .callback
  let weak ← v.fieldD "weak_risk_signals" (.bool false)
  let advised ← v.listField "recommendations"
  let version ← version.display
  let recommendations ← (adviceIn advised).mapM (readRecommendation version)
  let abilityNames ← Json.names abilities
  let componentNames ← Json.names components
  let callbackNames ← Json.names callbacks
  let abilityBases ← Json.names (← tableField table "ability_bases" [])
  let componentBases ←
    Json.names (← tableField table "component_bases" (patternsOf componentBaseNames))
  return {
    version
    names := fun
      | .ability => abilityNames
      | .component => componentNames
      | .callback => callbackNames
    abilityBases
    componentBases
    componentMarkers := ← tableField table "component_markers" (patternsOf ["Component"])
    entryMarkers := ← tableField table "entry_markers" []
    syntheticPatterns :=
      ← tableField table "synthetic_class_patterns" (patternsOf generatedPatterns)
    weakSignals := weak.truthy
    recommendations }

/-- (load tree path) reads the catalog in a file. -/
def load (tree : FileTree) (path : Path) : Except Fault Catalog := do
  ofDocument (← readDocument path (← tree.read path))

/-- (resolve tree reference) is the catalog that a reference means: none is the standard one, a
version is built in, and anything else is the path of a file.
-/
def resolve (tree : FileTree) (reference : Json) : Except Fault Catalog :=
  if !reference.truthy then
    .ok standard
  else
    match reference with
    | .text written =>
        match builtin? written with
        | some catalog => .ok catalog
        | none => load tree (.ofText written)
    | v => do throw (.notAPath (← v.name?).shape)

end ArkLifecycle.Catalog
