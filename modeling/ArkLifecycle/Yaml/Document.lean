import ArkLifecycle.Json.Cycle
import ArkLifecycle.Yaml.Node
import ArkLifecycle.Yaml.Scalar
import ArkLifecycle.Yaml.SetOrder

/-! From nodes to a document.

Nodes are made in the order in which they are met: a scalar at once, and the parts of a collection
when all collections that were met before are complete. So the first fault in this order is the
fault of the document. A key must be a scalar; a repeated key keeps its first place and its last
value. Before the fields of a mapping are made, it takes over the fields of the mappings that its
merge keys name.
-/

namespace ArkLifecycle.Yaml

/-- How far the making of nodes has come: what became of each, and which collections are not yet
complete, the last one first.
-/
structure Making where
  nodes : Array Node
  made : Array (Option Layer)
  waiting : List Nat
deriving Inhabited

/-- A step of the making of nodes. -/
abbrev Maker := StateT Making (Except Fault)

namespace Maker

/-- (node index) is a node by its number. -/
def node (index : Nat) : Maker Node := do
  return (← get).nodes.getD index ⟨.unknown, .sequence []⟩

/-- (tagOf index) is the kind of value that a node is. -/
def tagOf (index : Nat) : Maker Tag := do
  return (← node index).tag

/-- (pairsOf index) are the fields of a node that is a mapping. -/
def pairsOf (index : Nat) : Maker (List (Nat × Nat)) := do
  match (← node index).content with
  | .mapping pairs => return pairs
  | _ => throw .malformedYaml

/-- (setPairs index pairs) gives a mapping other fields. -/
def setPairs (index : Nat) (pairs : List (Nat × Nat)) : Maker Unit :=
  modify fun making =>
    { making with
      nodes := making.nodes.modify index fun node => { node with content := .mapping pairs } }

/-- (setTag index tag) makes a node another kind of value. -/
def setTag (index : Nat) (tag : Tag) : Maker Unit :=
  modify fun making =>
    { making with nodes := making.nodes.modify index fun node => { node with tag := tag } }

/-- (finish index made) says what has become of a node. -/
def finish (index : Nat) (made : Layer) : Maker Unit :=
  modify fun making => { making with made := making.made.setIfInBounds index (some made) }

/-- (await index made) says what a node will be, and that it is not yet complete. -/
def await (index : Nat) (made : Layer) : Maker Unit := do
  finish index made
  modify fun making => { making with waiting := index :: making.waiting }

-----------------------------------------------------------------------------------------
-- Merge keys

/-- (nextMerge pairs place) is the place of the first merge key among fields, the first of which
stands at `place`, with what that key names. Keys before it for the value of a mapping become texts.
-/
def nextMerge : List (Nat × Nat) → Nat → Maker (Option (Nat × Nat))
  | [], _ => return none
  | (name, value) :: rest, place => do
      match ← tagOf name with
      | .merge => return some (place, value)
      | .value =>
          setTag name .text
          nextMerge rest (place + 1)
      | _ => nextMerge rest (place + 1)

/-- (takeOver fuel room index place more) goes through the fields of a mapping from `place` on,
removes the merge keys and adds the fields `more` in front, with those that the merge keys name. Of
several mappings in a list the first one wins. Mappings may take over from each other at most `room`
times one after the other.
-/
def takeOver : Nat → Nat → Nat → Nat → List (Nat × Nat) → Maker Unit
  | 0, _, _, _, _ => throw .malformedYaml
  | _, 0, _, _, _ => throw .tooDeep
  | fuel + 1, room + 1, index, place, more => do
      let pairs ← pairsOf index
      match ← nextMerge (pairs.drop place) place with
      | none => if more.isEmpty then pure () else setPairs index (more ++ pairs)
      | some (place, value) =>
          setPairs index (pairs.eraseIdx place)
          match (← node value).content with
          | .mapping _ =>
              takeOver fuel room value 0 []
              takeOver fuel (room + 1) index place (more ++ (← pairsOf value))
          | .sequence items =>
              let found ← items.mapM fun item => do
                let _ ← pairsOf item
                takeOver fuel room item 0 []
                pairsOf item
              takeOver fuel (room + 1) index place (more ++ found.reverse.flatten)
          | .scalar _ => throw .malformedYaml

/-- (referenceLimit) is how many nodes may refer to each other one after the other. -/
def referenceLimit : Nat := 985

/-- (mergeCount) is the number of merge keys in all mappings. -/
def mergeCount : Maker Nat := do
  let nodes := (← get).nodes
  let isMerge (pair : Nat × Nat) : Bool :=
    (nodes[pair.1]?.map fun name => name.tag == .merge).getD false
  let count (sum : Nat) (node : Node) : Nat :=
    match node.content with
    | .mapping pairs => sum + pairs.countP isMerge
    | _ => sum
  return nodes.foldl count 0

/-- (merge index) takes over fields for a mapping. Every call of `takeOver` inside another one or
after it follows the removal of a merge key, and none is ever added.
-/
def merge (index : Nat) : Maker Unit := do
  takeOver ((← mergeCount) + 2) referenceLimit index 0 []

-----------------------------------------------------------------------------------------
-- Making

/-- (scalarText room index) is the text of a scalar. A mapping with a key for its value stands for
that value, which is followed at most `room` times.
-/
def scalarText : Nat → Nat → Maker Text
  | 0, _ => throw .tooDeep
  | room + 1, index => do
      match (← node index).content with
      | .scalar content => return content
      | .sequence _ => throw .malformedYaml
      | .mapping pairs =>
          match ← pairs.findM? fun pair => return (← tagOf pair.1) == .value with
          | some pair => scalarText room pair.2
          | none => throw .malformedYaml

/-- (makeScalar index tag) makes a scalar. A day or moment is read from its own text only. -/
def makeScalar (index : Nat) (tag : Tag) : Maker Unit := do
  let content ← scalarText referenceLimit index
  match tag, (← node index).content with
  | .stamp, .mapping _ => throw (.notAText .array)
  | tag, _ => finish index (.scalar (← scalarValue index tag content))

/-- (meet index) makes a scalar, and begins with a collection, when it was not met before. -/
def meet (index : Nat) : Maker Unit := do
  if ((← get).made.getD index none).isSome then
    return
  match ← tagOf index with
  | .list => await index (.array [])
  | .mapping => await index (.object [])
  | .pairs => await index (.pairs [])
  | .set => await index (.set [])
  | .merge | .value | .unknown => throw .malformedYaml
  | tag => makeScalar index tag

/-- (key index) makes a key. -/
def key (index : Nat) : Maker Scalar := do
  meet index
  match (← get).made.getD index none with
  | some (.scalar value) => return value
  | _ => throw .malformedYaml

/-- (fields index) makes the fields of a mapping. -/
def fields (index : Nat) : Maker (List (Scalar × Nat)) := do
  let _ ← pairsOf index
  merge index
  (← pairsOf index).foldlM
    (fun fields (name, value) => do
      let name ← key name
      meet value
      return Json.put fields name value)
    []

/-- (pair index) makes the single field of a mapping. -/
def pair (index : Nat) : Maker (Nat × Nat) := do
  match ← pairsOf index with
  | [(name, value)] =>
      meet name
      meet value
      return (name, value)
  | _ => throw .malformedYaml

/-- (complete index) completes a collection. -/
def complete (index : Nat) : Maker Unit := do
  let node ← node index
  match node.tag, node.content with
  | .list, .sequence items =>
      items.forM meet
      finish index (.array items)
  | .pairs, .sequence items => finish index (.pairs (← items.mapM pair))
  | .mapping, _ => finish index (.object (← fields index))
  | .set, _ => finish index (.set (setOrder ((← fields index).map Prod.fst)))
  | _, _ => throw .malformedYaml

/-- (completeAll fuel) completes the collections that wait, and then those that were met there. -/
def completeAll : Nat → Maker Unit
  | 0 => pure ()
  | fuel + 1 => do
      let waiting := (← get).waiting.reverse
      modify fun making => { making with waiting := [] }
      waiting.forM complete
      if waiting.isEmpty then pure () else completeAll fuel

end Maker

/-- (layersOf nodes root) are the layers that become of the nodes of a document; a node that nothing
needs becomes null. Every collection waits once.
-/
def layersOf (nodes : Array Node) (root : Nat) : Except Fault (Array Layer) := do
  let steps : Maker Unit := do
    Maker.meet root
    Maker.completeAll (nodes.size + 1)
  let (_, making) ← steps.run ⟨nodes, nodes.map fun _ => none, []⟩
  return making.made.map fun made => made.getD (.scalar .null)

/-- (parse s) is the document that the text `s` writes; a text without one is null. -/
def parse (s : String) : Except Fault Json := do
  match ← readNodes (tokens s) with
  | (none, _) => return .null
  | (some root, nodes) => return .ofLayers (← layersOf nodes root) root

end ArkLifecycle.Yaml
