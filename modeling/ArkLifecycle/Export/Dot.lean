import ArkLifecycle.Analysis

/-! The callbacks and what they invoke, as a graph in the DOT notation.

A callback is a node, and so is every target of a statement in its body. Only the first nodes and
edges are drawn. Identifiers are reduced to letters, digits, points and underscores; labels are
cut, and quotes and backslashes in them are escaped.
-/

namespace ArkLifecycle.Export

variable {κ : Type} [Datum κ]

/-- (drawnNodes) is how many nodes are drawn. -/
def drawnNodes : Nat := 50

/-- (drawnEdges) is how many edges are drawn. -/
def drawnEdges : Nat := 100

/-- (labelLength) is the greatest length of a label. -/
def labelLength : Nat := 40

/-- The graph to be drawn. Targets that a malformed export names need not be texts. -/
structure Drawing where
  callbacks : List Text
  nodes : List Scalar
  edges : List (Text × Scalar)
deriving Repr, Inhabited

/-- (identifier text) replaces every character that an identifier cannot have. -/
def identifier (text : Text) : Text :=
  Text.ofList <| text.toList.map fun (c : Letter) =>
    if c.satisfies Char.isAlphanum || c == '_' || c == '.' then c else '_'

/-- (shortened text) cuts a text that is too long for a label. -/
def shortened (text : Text) : Text :=
  if labelLength < text.toList.length then
    Text.takeText (labelLength - 3) text ++ "..."
  else
    text

/-- (escapedLabel text) escapes backslashes, and then quotes. -/
def escapedLabel (text : Text) : Text :=
  (text.replace '\\' "\\\\").replace '"' "\\\""

theorem escapedLabel_eq (text : Text)
    : escapedLabel text
      = .ofList (text.toList.flatMap fun (letter : Letter) =>
          if letter = '\\' then ['\\', '\\']
          else if letter = '"' then ['\\', '"']
          else [letter]) :=
  Text.replace_replace text (by decide)

/-- (targetOf exprs) is what the first expression with a callee or an invocation leads to. -/
def targetOf : List Expr → Except Fault (Option Scalar)
  | [] => .ok none
  | expr :: rest =>
      match expr.callee with
      | .signature target => .ok (some (.text target))
      | .malformed (.scalar value) => .ok (some value)
      | .malformed v => .error (.notAName v.shape)
      | .unresolved =>
          if Invocation.isInvocation expr.text then
            .ok (some (.text (Invocation.label expr.text)))
          else
            targetOf rest

/-- (addNode nodes node) adds a node unless it is there. -/
def addNode (nodes : List Scalar) (node : Scalar) : List Scalar :=
  if nodes.any (Scalar.same node) then nodes else nodes ++ [node]

/-- (lifecycleRecords records) keeps one record for every short name: the last one, at the place of
the first.
-/
def lifecycleRecords (records : List (Record κ)) : List (Text × Record κ) :=
  records.foldl (fun kept record => Json.put kept record.key record) []

/-- (drawBody key drawing stmts) adds the targets of statements. -/
def drawBody (key : Text) : Drawing → List Stmt → Except Fault Drawing
  | drawing, [] => .ok drawing
  | drawing, stmt :: rest => do
      match ← targetOf stmt.exprs with
      | none => drawBody key drawing rest
      | some target =>
          drawBody key
            { drawing with
              nodes := addNode drawing.nodes target
              edges := drawing.edges ++ [(key, target)] }
            rest

/-- (bodyStmts record) are the statements in the body of a callback. -/
def bodyStmts (record : Record κ) : List Stmt :=
  match record.method.bind Method.cfg with
  | some cfg => cfg.stmts
  | none => []

/-- (drawRecords drawing records) adds callbacks with their targets. -/
def drawRecords : Drawing → List (Text × Record κ) → Except Fault Drawing
  | drawing, [] => .ok drawing
  | drawing, (key, record) :: rest => do
      let drawing := { drawing with nodes := addNode drawing.nodes (.text key) }
      drawRecords (← drawBody key drawing (bodyStmts record)) rest

/-- (drawing records) is the graph of all callbacks. -/
def drawing (records : List (Record κ)) : Except Fault Drawing :=
  let kept := lifecycleRecords records
  drawRecords { callbacks := kept.map Prod.fst, nodes := [], edges := [] } kept

/-- (nodeText node) is the text of a node. -/
def nodeText : Scalar → Except Fault Text
  | .text value => .ok value
  | value => .error (.notAText value.shape)

/-- (nodeLine callbacks node) declares a node; callbacks have a colour of their own. -/
def nodeLine (callbacks : List Text) (node : Scalar) : Except Fault Text := do
  let text ← nodeText node
  let colour := if callbacks.contains text then "lightcoral" else "lightblue"
  return "    \"" ++ identifier text ++ "\" [label=\"" ++ escapedLabel (shortened text)
    ++ "\", fillcolor=" ++ colour ++ "];"

/-- (edgeLine edge) declares an edge. -/
def edgeLine (edge : Text × Scalar) : Except Fault Text := do
  return "    \"" ++ identifier edge.1 ++ "\" -> \"" ++ identifier (← nodeText edge.2) ++ "\";"

/-- (dotLines drawing) are the lines of the text. -/
def dotLines (drawing : Drawing) : Except Fault (List Text) := do
  let nodes ← (drawing.nodes.take drawnNodes).mapM (nodeLine drawing.callbacks)
  let edges ← (drawing.edges.take drawnEdges).mapM edgeLine
  let header : List Text :=
    ["digraph CallGraph \x7b",
      "    node [shape=box, style=filled, fillcolor=lightblue];",
      "    rankdir=TB;",
      "    concentrate=true;",
      ""]
  let blank : Text := ""
  let footer : Text := "\x7d"
  return header ++ nodes ++ [blank] ++ edges ++ [footer]

/-- (dot records) writes the graph of the callbacks of an analysis. -/
def dot (records : List (Record κ)) : Except Fault Text := do
  return Text.joinWith "\n" (← dotLines (← drawing records)) ++ "\n"

end ArkLifecycle.Export
