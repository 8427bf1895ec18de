import ArkLifecycle.Export.Dot
import ArkLifecycle.Proofs.Json.Sameness
import ArkLifecycle.Proofs.Session.Inquiry

/-! What the graph of callbacks shows.

A callback leads to the targets of its statements, in their order. The nodes of the graph are all
callbacks and targets, each where it is first met, and there is one edge for every target. The text
declares the first nodes, and joins the ends of the first edges.
-/

namespace ArkLifecycle.Export

variable {κ : Type}

-----------------------------------------------------------------------------------------
-- What callbacks lead to
-----------------------------------------------------------------------------------------

/-- The statements lead to these targets, in order. -/
inductive Leads : List Stmt → List Scalar → Prop
  | nil : Leads [] []
  | silent {stmt rest targets} (nothing : targetOf stmt.exprs = .ok none)
    (later : Leads rest targets)
    : Leads (stmt :: rest) targets
  | call {stmt rest target targets} (leads : targetOf stmt.exprs = .ok (some target))
    (later : Leads rest targets)
    : Leads (stmt :: rest) (target :: targets)

/-- A callback by its short name, with all that it leads to. -/
structure Source where
  callback : Text
  targets : List Scalar

namespace Source

/-- The source is that of a record. -/
structure Of (entry : Text × Record κ) (source : Source) : Prop where
  callback : source.callback = entry.1
  targets : Leads (bodyStmts entry.2) source.targets

/-- (nodes source) are the nodes that a source has in the graph. -/
def nodes (source : Source) : List Scalar :=
  .text source.callback :: source.targets

/-- (edges source) are the edges of a source. -/
def edges (source : Source) : List (Text × Scalar) :=
  source.targets.map fun target => (source.callback, target)

end Source

/-- A body that is drawn adds a node and an edge for each of its targets.
Witness: induction over the statements.
-/
theorem drawBody_eq_ok {key : Text} {before after : Drawing} {stmts : List Stmt}
    (done : drawBody key before stmts = .ok after)
    : ∃ targets,
        Leads stmts targets
        ∧ after
          = { before with
              nodes := targets.foldl addNode before.nodes
              edges := before.edges ++ targets.map fun target => (key, target) } := by
  induction stmts generalizing before with
  | nil =>
      cases done
      exact ⟨[], .nil, by simp⟩
  | cons stmt rest ih =>
      unfold drawBody at done
      obtain ⟨target, told, done⟩ := bind_eq_ok done
      cases target with
      | none =>
          obtain ⟨targets, leads, drawn⟩ := ih done
          exact ⟨targets, .silent told leads, drawn⟩
      | some target =>
          obtain ⟨targets, leads, drawn⟩ := ih done
          refine ⟨target :: targets, .call told leads, ?_⟩
          rw [drawn, List.foldl_cons, List.map_cons, List.append_assoc, List.singleton_append]

/-- Callbacks that are drawn add their nodes and edges one after the other.
Witness: induction over the callbacks.
-/
theorem drawRecords_eq_ok {before after : Drawing} {records : List (Text × Record κ)}
    (done : drawRecords before records = .ok after)
    : ∃ sources,
        List.Forall₂ Source.Of records sources
        ∧ after
          = { before with
              nodes := (sources.flatMap Source.nodes).foldl addNode before.nodes
              edges := before.edges ++ sources.flatMap Source.edges } := by
  induction records generalizing before with
  | nil =>
      cases done
      exact ⟨[], .nil, by simp⟩
  | cons entry rest ih =>
      unfold drawRecords at done
      obtain ⟨middle, body, done⟩ := bind_eq_ok done
      obtain ⟨targets, leads, drawn⟩ := drawBody_eq_ok body
      obtain ⟨sources, all, whole⟩ := ih done
      refine ⟨⟨entry.1, targets⟩ :: sources, .cons ⟨rfl, leads⟩ all, ?_⟩
      rw [whole, drawn]
      simp [Source.nodes, Source.edges]

deriving instance DecidableEq for Drawing

/-- Nodes that are added one after the other are kept where they are first met. -/
theorem foldl_addNode (nodes : List Scalar) : nodes.foldl addNode [] = Scalar.distinct nodes := by
  have walk (kept : List Scalar)
      : nodes.foldl addNode kept
        = (nodes.foldl (fun kept name => if kept.any (Scalar.same name) then kept else name :: kept)
            kept.reverse).reverse := by
    induction nodes generalizing kept with
    | nil => simp
    | cons node rest ih =>
        rw [List.foldl_cons, List.foldl_cons, ih, addNode, List.any_reverse]
        split <;> simp
  exact walk []

/-- A graph that is drawn has the nodes and edges of its callbacks. -/
theorem drawing_eq_ok [Datum κ] {records : List (Record κ)} {drawn : Drawing}
    (done : drawing records = .ok drawn)
    : ∃ sources,
        List.Forall₂ Source.Of (lifecycleRecords records) sources
        ∧ Scalar.FirstsOf (sources.flatMap Source.nodes) drawn.nodes
        ∧ drawn.edges = sources.flatMap Source.edges
        ∧ drawn.callbacks = (lifecycleRecords records).map Prod.fst := by
  obtain ⟨sources, all, rfl⟩ := drawRecords_eq_ok done
  refine ⟨sources, all, ?_, rfl, rfl⟩
  rw [foldl_addNode]
  exact Scalar.distinct_firstsOf _

-----------------------------------------------------------------------------------------
-- What the text shows
-----------------------------------------------------------------------------------------

/-- What the line of a node says about it. -/
structure Declaration where
  identifier : Text
  label : Text
  colour : Text
deriving DecidableEq

/-- (declare callbacks name) is what is said about a node. -/
def declare (callbacks : List Text) (name : Text) : Declaration where
  identifier := identifier name
  label := escapedLabel (shortened name)
  colour := Text.ofString (if callbacks.contains name then "lightcoral" else "lightblue")

/-- A graph as its text shows it: what is said about some nodes, and edges between identifiers. -/
structure Picture where
  nodes : List Declaration
  edges : List (Text × Text)
deriving DecidableEq

namespace Picture

/-- What is said about the node of a name, which is a text. -/
def Declares (callbacks : List Text) (name : Scalar) (node : Declaration) : Prop :=
  ∃ text, name = .text text ∧ node = declare callbacks text

/-- The identifiers of the ends of an edge, which leads to a text. -/
def Joins (edge : Text × Scalar) (line : Text × Text) : Prop :=
  ∃ text, edge.2 = .text text ∧ line = (identifier edge.1, identifier text)

/-- The picture declares these names, and joins the ends of these edges. -/
structure Of (callbacks : List Text) (names : List Scalar) (joined : List (Text × Scalar))
    (picture : Picture) : Prop where
  nodes : List.Forall₂ (Declares callbacks) names picture.nodes
  edges : List.Forall₂ Joins joined picture.edges

/-- (nodeLine node) is the line that declares a node. -/
def nodeLine (node : Declaration) : Text :=
  "    \"" ++ node.identifier ++ "\" [label=\"" ++ node.label ++ "\", fillcolor=" ++ node.colour
    ++ "];"

/-- (edgeLine edge) is the line that joins two identifiers. -/
def edgeLine (edge : Text × Text) : Text :=
  "    \"" ++ edge.1 ++ "\" -> \"" ++ edge.2 ++ "\";"

/-- (lines picture) are the lines of a picture. -/
def lines (picture : Picture) : List Text :=
  let header : List Text :=
    ["digraph CallGraph \x7b",
      "    node [shape=box, style=filled, fillcolor=lightblue];",
      "    rankdir=TB;",
      "    concentrate=true;",
      ""]
  let blank : Text := ""
  let footer : Text := "\x7d"
  header ++ picture.nodes.map nodeLine ++ [blank] ++ picture.edges.map edgeLine ++ [footer]

/-- (written picture) is the text of a picture. -/
def written (picture : Picture) : Text :=
  Text.joinWith "\n" picture.lines ++ "\n"

end Picture

theorem nodeText_eq_ok_iff {node : Scalar} {text : Text}
    : nodeText node = .ok text ↔ node = .text text := by
  cases node <;> simp [nodeText]

theorem nodeLine_eq_ok_iff {callbacks : List Text} {name : Scalar} {line : Text}
    : nodeLine callbacks name = .ok line
      ↔ ∃ node, Picture.Declares callbacks name node ∧ line = Picture.nodeLine node := by
  constructor
  · intro done
    obtain ⟨text, read, done⟩ := bind_eq_ok done
    cases done
    exact ⟨_, ⟨text, nodeText_eq_ok_iff.mp read, rfl⟩, rfl⟩
  · rintro ⟨_, ⟨text, rfl, rfl⟩, rfl⟩
    rfl

theorem edgeLine_eq_ok_iff {edge : Text × Scalar} {line : Text}
    : edgeLine edge = .ok line
      ↔ ∃ joined, Picture.Joins edge joined ∧ line = Picture.edgeLine joined := by
  obtain ⟨source, target⟩ := edge
  constructor
  · intro done
    obtain ⟨text, read, done⟩ := bind_eq_ok done
    cases done
    exact ⟨_, ⟨text, nodeText_eq_ok_iff.mp read, rfl⟩, rfl⟩
  · rintro ⟨_, ⟨text, rfl, rfl⟩, rfl⟩
    rfl

/-- Items are read exactly if each of them has a picture, and then the results are those of the
pictures.
Witness: induction over the items.
-/
theorem mapM_eq_ok_iff {α β γ : Type} {read : α → Except Fault γ} {pictured : α → β → Prop}
    {f : β → γ}
    (each
      : ∀ item result,
          read item = .ok result ↔ ∃ thing, pictured item thing ∧ result = f thing)
    {items : List α} {results : List γ}
    : items.mapM read = .ok results
      ↔ ∃ things, List.Forall₂ pictured items things ∧ results = things.map f := by
  constructor
  · intro done
    have all := mapM_eq_ok done
    clear done
    induction all with
    | nil => exact ⟨[], .nil, rfl⟩
    | cons first _ ih =>
        obtain ⟨thing, good, rfl⟩ := (each _ _).mp first
        obtain ⟨things, others, rfl⟩ := ih
        exact ⟨thing :: things, .cons good others, rfl⟩
  · rintro ⟨things, all, rfl⟩
    induction all with
    | nil => rfl
    | cons first _ ih =>
        rw [List.mapM_cons, (each _ _).mpr ⟨_, first, rfl⟩, ih]
        rfl

/-- The text shows the first nodes and the first edges of the graph, and is there when those are
texts.
Witness: a line is written exactly for a text.
-/
theorem dot_eq_ok_iff [Datum κ] {records : List (Record κ)} {text : Text}
    : dot records = .ok text
      ↔ ∃ drawn picture,
          drawing records = .ok drawn
          ∧ Picture.Of drawn.callbacks (drawn.nodes.take drawnNodes)
              (drawn.edges.take drawnEdges) picture
          ∧ text = picture.written := by
  constructor
  · intro done
    obtain ⟨drawn, begun, done⟩ := bind_eq_ok done
    obtain ⟨lines, listed, done⟩ := bind_eq_ok done
    obtain ⟨first, declared, listed⟩ := bind_eq_ok listed
    obtain ⟨last, joined, listed⟩ := bind_eq_ok listed
    cases done
    cases listed
    obtain ⟨nodes, shown, rfl⟩ := (mapM_eq_ok_iff fun _ _ => nodeLine_eq_ok_iff).mp declared
    obtain ⟨edges, linked, rfl⟩ := (mapM_eq_ok_iff fun _ _ => edgeLine_eq_ok_iff).mp joined
    exact ⟨drawn, ⟨nodes, edges⟩, begun, ⟨shown, linked⟩, rfl⟩
  · rintro ⟨drawn, ⟨nodes, edges⟩, begun, ⟨shown, linked⟩, rfl⟩
    have declared := (mapM_eq_ok_iff fun _ _ => nodeLine_eq_ok_iff).mpr ⟨nodes, shown, rfl⟩
    have joined := (mapM_eq_ok_iff fun _ _ => edgeLine_eq_ok_iff).mpr ⟨edges, linked, rfl⟩
    unfold dot dotLines
    rw [begun]
    simp only [bind, Except.bind, declared, joined]
    rfl

end ArkLifecycle.Export
