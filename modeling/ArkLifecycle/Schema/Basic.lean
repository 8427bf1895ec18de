import ArkLifecycle.Json.Access
import ArkLifecycle.Json.Wrapped

/-! Schemas for JSON documents.

A schema is a list of rules that are checked in order. Rules about fields concern mappings
only, rules about items lists only, and bounds concern numbers only. A floating-point number
without fractional digits is an integer; a truth value is no number. A written schema may hold
rules that make no sense; such a rule fails when it is applied.
-/

namespace ArkLifecycle

/-- The types that a schema can ask for. -/
inductive TypeName where
  | null
  | boolean
  | integer
  | number
  | string
  | array
  | object
deriving DecidableEq, Repr, Inhabited

/-- A rule of a schema. -/
inductive Rule where
  | type (allowed : List TypeName)
  /-- Some of the types that are asked for do not exist; `schema` is where they stand. -/
  | typeAmong (asked : List Json) (schema : Json)
  | required (names : List Scalar)
  | properties (fields : List (Text × List Rule))
  | items (rules : List Rule)
  /-- A list must be empty. -/
  | noItems
  | minimum (bound : Json)
  | oneOf (options : List (List Rule))
  /-- There must be no value at all. -/
  | never
  /-- The rule makes no sense for values of the type, or for any value without one. -/
  | broken (type : Option TypeName) (fault : Fault)
deriving Repr, Inhabited

/-- What comes of checking a rule: a disagreement, or the fault of a rule that makes no sense. -/
inductive Finding where
  | violation (violation : Violation)
  | fault (fault : Fault)
deriving Repr, Inhabited

/-- A schema: rules that are checked in order. -/
abbrev Schema := List Rule

namespace TypeName

/-- (name type) is the word for a type in schemas and messages. -/
def name : TypeName → Text
  | .null => "null"
  | .boolean => "boolean"
  | .integer => "integer"
  | .number => "number"
  | .string => "string"
  | .array => "array"
  | .object => "object"

/-- (all) lists the types. -/
def all : List TypeName :=
  [.null, .boolean, .integer, .number, .string, .array, .object]

/-- (ofName? s) is the type that a word stands for. -/
def ofName? (s : Text) : Option TypeName :=
  all.find? fun type => type.name == s

/-- (admits type v) holds when the document `v` is of the type. -/
def admits : TypeName → Json → Bool
  | .null, .null => true
  | .boolean, .bool _ => true
  | .integer, .int _ => true
  | .integer, .float value => value.isIntegral
  | .number, .int _ => true
  | .number, .float _ => true
  | .string, .text _ => true
  | .array, .array _ => true
  | .object, .object _ => true
  | _, _ => false

end TypeName

namespace Schema

/-- (isBelow value bound) holds when the first number is smaller. A bound may be a truth value,
which counts as one or zero.
-/
def isBelow (value bound : Scalar) : Bool :=
  match value, bound, bound.asInt? with
  | .int m, _, some n => m < n
  | .float x, _, some n => x.ltInt n
  | .int m, .float y, none => !y.leInt m && y.isDefined
  | .float x, .float y, none => x.lt y
  | _, _, _ => false

/-- (isBound v) holds of the documents that a number can be compared with. -/
def isBound (v : Json) : Bool :=
  match v.shape with
  | .bool | .int | .float => true
  | _ => false

/-- (violated path message) is a disagreement at a path, which leads from the document to the
root.
-/
def violated (path : List Text) (message : Text) : Finding :=
  .violation ⟨path.reverse, message⟩

/-- (disagrees path message) is a disagreement whose message may have something in it that cannot be
shown.
-/
def disagrees (path : List Text) (message : Except Fault Text) : Finding :=
  match message with
  | .ok message => violated path message
  | .error fault => .fault fault

/-- (checkBound path value bound) checks a number against its bound. -/
def checkBound (path : List Text) (value : Scalar) : Json → List Finding
  | .scalar bound =>
      if !isBound (.scalar bound) then
        [.fault (.notOrdered value.shape bound.shape)]
      else if isBelow value bound then
        [disagrees path do
          return (← value.quoted) ++ " is less than the minimum of " ++ (← bound.quoted)]
      else
        []
  | bound => [.fault (.notOrdered value.shape bound.shape)]

/-- (margin) stands before the documents in a message about an unknown type. -/
def margin : Text := "    "

/-- (unknownType asked schema v) is the fault of a schema that asks a document for a type that
there is not.
-/
def unknownType (asked schema v : Json) : Fault :=
  let shown : Except Fault Fault := do
    return .unknownType (← asked.quoted) (← schema.inLines margin) (← v.inLines margin)
  match shown with
  | .ok fault => fault
  | .error fault => fault

/-- (typeOf asked) is the type that a written word stands for, if there is one. -/
def typeOf (asked : Json) : Except Fault (Option TypeName) := do
  match ← asked.name? with
  | .text word => return TypeName.ofName? word
  | _ => return none

/-- (checkTypes v schema asked) goes through the types that a schema asks for until one of them
admits the document or does not exist.
-/
def checkTypes (v schema : Json) : List Json → List Finding
  | [] => []
  | asked :: rest =>
      match typeOf asked with
      | .error fault => [.fault fault]
      | .ok none => [.fault (unknownType asked schema v)]
      | .ok (some type) => if type.admits v then [] else checkTypes v schema rest

/-- (extra items) shows what is too much in a list; a single item stands for itself. -/
def extra : List Json → Json
  | [item] => item
  | items => .array items

mutual

/-- (check path v rule) lists what comes of checking the document `v`, found at a path, against a
rule. The path leads from the document to the root. Where nothing may be, the fault lies with the
document around.
-/
def check (path : List Text) (v : Json) : Rule → List Finding
  | .type allowed =>
      if allowed.any (·.admits v) then
        []
      else
        let wanted := Text.joinWith ", " (allowed.map fun type => Text.quoted type.name)
        [disagrees path do return (← v.quoted) ++ " is not of type " ++ wanted]
  | .typeAmong asked schema => checkTypes v schema asked
  | .required names =>
      match v with
      | .object fields =>
          (names.filter fun name => (Json.lookup fields name).isNone).map fun name =>
            disagrees path do return (← name.quoted) ++ " is a required property"
      | _ => []
  | .properties rules =>
      match v with
      | .object fields => checkFields path fields rules
      | _ => []
  | .items rules =>
      match v with
      | .array items =>
          items.zipIdx.flatMap fun (item, index) => checkAll (.ofNat index :: path) item rules
      | _ => []
  | .noItems =>
      match v with
      | .array (item :: rest) =>
          [disagrees path do
            return "Expected at most 0 items but found " ++ Text.ofNat (rest.length + 1)
              ++ " extra: " ++ (← (extra (item :: rest)).quoted)]
      | _ => []
  | .minimum bound =>
      match v with
      | .scalar value =>
          if TypeName.admits .number v then checkBound path value bound else []
      | _ => []
  | .oneOf options =>
      if countAccepting v options == 1 then
        []
      else
        [disagrees path do
          return (← v.quoted) ++ " is not valid under any of the given schemas"]
  | .never =>
      [disagrees (path.drop 1) do return "False schema does not allow " ++ (← v.quoted)]
  | .broken type fault => if type.all (·.admits v) then [.fault fault] else []

/-- (checkAll path v rules) lists what comes of all rules, in the order of the rules. -/
def checkAll (path : List Text) (v : Json) : List Rule → List Finding
  | [] => []
  | rule :: rest => check path v rule ++ checkAll path v rest

/-- (checkFields path fields rules) checks the fields that are there. -/
def checkFields (path : List Text) (fields : Json.Fields)
    : List (Text × List Rule) → List Finding
  | [] => []
  | (name, rules) :: rest =>
      (match Json.lookup fields name with
        | some value => checkAll (name :: path) value rules
        | none => [])
      ++ checkFields path fields rest

/-- (countAccepting v options) is the number of schemas that accept `v`. -/
def countAccepting (v : Json) : List (List Rule) → Nat
  | [] => 0
  | rules :: rest =>
      (if (checkAll [] v rules).isEmpty then 1 else 0) + countAccepting v rest

end

/-- (pathLe p q) orders paths by their elements as texts. -/
def pathLe : List Text → List Text → Bool
  | [], _ => true
  | _ :: _, [] => false
  | a :: p, b :: q => a.precedes b || (a == b && pathLe p q)

/-- (violationsIn findings) are the disagreements among the findings, or the first fault. -/
def violationsIn : List Finding → Except Fault (List Violation)
  | [] => .ok []
  | .fault fault :: _ => .error fault
  | .violation violation :: rest => do return violation :: (← violationsIn rest)

/-- (violations schema v) lists the disagreements of a document, ordered by path. -/
def violations (schema : Schema) (v : Json) : Except Fault (List Violation) := do
  let found ← violationsIn (checkAll [] v schema)
  return found.mergeSort fun a b => pathLe a.path b.path

/-- (accepts schema v) holds when the document agrees with the schema. -/
def accepts (schema : Schema) (v : Json) : Bool :=
  (checkAll [] v schema).isEmpty

/-- (validate name schema v) fails with all disagreements; `name` is the schema's file name. -/
def validate (name : Text) (schema : Schema) (v : Json) : Except Fault Unit := do
  match ← violations schema v with
  | [] => return ()
  | found => throw (.schemaViolated name found)

-----------------------------------------------------------------------------------------
-- Written schemas

/-- (typeRule schema v) reads the types that are allowed in a schema: one, or several. -/
def typeRule (schema v : Json) : Rule :=
  let asked : Except Fault (List Json) := match v with
    | .text word => .ok [.text word]
    | v => v.items
  match asked with
  | .error fault => .broken none fault
  | .ok asked =>
      match asked.mapM typeOf with
      | .error _ => .typeAmong asked schema
      | .ok types =>
          if types.all Option.isSome then .type (types.filterMap id) else .typeAmong asked schema

/-- (requiredRule v) reads the names of the fields that must be there. -/
def requiredRule (v : Json) : Rule :=
  match v.items with
  | .ok items =>
      match items.mapM Json.name? with
      | .ok names => .required names
      | .error fault => .broken (some .object) fault
  | .error fault => .broken (some .object) fault

/-- (keywordOf name) is the keyword that a name is, empty when it is none. -/
def keywordOf : Scalar → String
  | .text value => value.string?.getD ""
  | _ => ""

mutual

/-- (ofJson v) reads a schema; keywords it does not know have no meaning. -/
def ofJson : Json → Schema
  | .object fields => rulesOf (.object fields) fields
  | .bool value => if value then [] else [.never]
  | v => [.broken none (.noCapability v.shape "get")]

/-- (rulesOf schema fields) reads the rules of a schema in order. -/
def rulesOf : Json → List (Scalar × Json) → List Rule
  | _, [] => []
  | schema, (keyword, value) :: rest =>
      (match keywordOf keyword, value with
        | "type", value => [typeRule schema value]
        | "required", value => [requiredRule value]
        | "properties", .object fields => [.properties (propertiesOf fields)]
        | "properties", v => [.broken (some .object) (.noCapability v.shape "items")]
        | "items", .bool false => [.noItems]
        | "items", ofItems => [.items (ofJson ofItems)]
        | "minimum", bound => [.minimum bound]
        | "oneOf", .array options => [.oneOf (optionsOf options)]
        | _, _ => [])
      ++ rulesOf schema rest

/-- (propertiesOf fields) reads one schema for every field. -/
def propertiesOf : List (Scalar × Json) → List (Text × List Rule)
  | [] => []
  | (.text name, value) :: rest => (name, ofJson value) :: propertiesOf rest
  | _ :: rest => propertiesOf rest

/-- (optionsOf items) reads a list of schemas. -/
def optionsOf : List Json → List (List Rule)
  | [] => []
  | item :: rest => ofJson item :: optionsOf rest

end

end Schema

end ArkLifecycle
