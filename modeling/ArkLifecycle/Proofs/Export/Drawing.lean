import ArkLifecycle.Export.Dot
import ArkLifecycle.Proofs.CallGraph.Reachability
import ArkLifecycle.Proofs.Program.Reading

/-! When the graph of callbacks can be written.

It cannot when a call leads to something that is no text. Where all calls are typed, every node of
it is a text.
-/

namespace ArkLifecycle.Export

-----------------------------------------------------------------------------------------
-- The graph of callbacks
-----------------------------------------------------------------------------------------

/-- (IsText node) holds of the nodes that can be drawn. -/
def IsText (node : Scalar) : Prop :=
  ∃ written, node = .text written

/-- All nodes and the ends of all edges are texts. -/
structure Drawing.Textual (drawing : Drawing) : Prop where
  nodes : ∀ node ∈ drawing.nodes, IsText node
  edges : ∀ edge ∈ drawing.edges, IsText edge.2

theorem addNode_isText {nodes : List Scalar} (texts : ∀ node ∈ nodes, IsText node)
    {added : Scalar} (text : IsText added)
    : ∀ node ∈ addNode nodes added, IsText node := by
  intro node member
  unfold addNode at member
  split at member
  · exact texts node member
  · rcases List.mem_append.mp member with before | new
    · exact texts node before
    · rw [List.mem_singleton.mp new]
      exact text

/-- Typed expressions lead to a text or to nothing.
Witness: induction over the expressions.
-/
theorem targetOf_typed {exprs : List Expr}
    (typed : ∀ expr ∈ exprs, ∀ value, expr.callee ≠ .malformed value)
    : ∃ target, targetOf exprs = .ok target ∧ ∀ node ∈ target, IsText node := by
  induction exprs with
  | nil => exact ⟨none, rfl, by simp⟩
  | cons expr rest ih =>
      unfold targetOf
      cases callee : expr.callee with
      | signature target => exact ⟨_, rfl, by rintro _ ⟨⟩; exact ⟨target, rfl⟩⟩
      | malformed value => exact absurd callee (typed expr List.mem_cons_self value)
      | unresolved =>
          dsimp only
          split
          · exact ⟨_, rfl, by rintro _ ⟨⟩; exact ⟨_, rfl⟩⟩
          · exact ih fun expr member => typed expr (List.mem_cons_of_mem _ member)

/-- A typed body is drawn, and the drawing stays textual.
Witness: induction over the statements.
-/
theorem drawBody_textual (key : Text) {stmts : List Stmt}
    (typed : ∀ stmt ∈ stmts, ∀ expr ∈ stmt.exprs, ∀ value, expr.callee ≠ .malformed value)
    {drawing : Drawing} (textual : drawing.Textual)
    : ∃ drawn, drawBody key drawing stmts = .ok drawn ∧ drawn.Textual := by
  induction stmts generalizing drawing with
  | nil => exact ⟨drawing, rfl, textual⟩
  | cons stmt rest ih =>
      have later := fun stmt member => typed stmt (List.mem_cons_of_mem _ member)
      obtain ⟨target, told, text⟩ := targetOf_typed (typed stmt List.mem_cons_self)
      unfold drawBody
      rw [told]
      cases target with
      | none => exact ih later textual
      | some node =>
          refine ih later ⟨addNode_isText textual.nodes (text node rfl), ?_⟩
          intro edge member
          rcases List.mem_append.mp member with before | new
          · exact textual.edges edge before
          · rw [List.mem_singleton.mp new]
            exact text node rfl

/-- Callbacks with typed bodies are drawn, and the drawing stays textual.
Witness: induction over the callbacks.
-/
theorem drawRecords_textual {records : List (Text × Record)}
    (typed : ∀ entry ∈ records, ∀ method ∈ entry.2.method, CallGraph.CallsTyped method)
    {drawing : Drawing} (textual : drawing.Textual)
    : ∃ drawn, drawRecords drawing records = .ok drawn ∧ drawn.Textual := by
  induction records generalizing drawing with
  | nil => exact ⟨drawing, rfl, textual⟩
  | cons entry rest ih =>
      have body
          : ∀ stmt ∈ bodyStmts entry.2,
              ∀ expr ∈ stmt.exprs, ∀ value, expr.callee ≠ .malformed value := by
        unfold bodyStmts
        split
        · next cfg given =>
            obtain ⟨method, recorded, written⟩ := Option.bind_eq_some_iff.mp given
            exact typed entry List.mem_cons_self method recorded cfg written
        · simp
      have started
          : ({ drawing with nodes := addNode drawing.nodes (.text entry.1) } : Drawing).Textual :=
        ⟨addNode_isText textual.nodes ⟨entry.1, rfl⟩, textual.edges⟩
      obtain ⟨drawn, done, good⟩ := drawBody_textual entry.1 body started
      obtain ⟨whole, others, all⟩ :=
        ih (fun entry member => typed entry (List.mem_cons_of_mem _ member)) good
      refine ⟨whole, ?_, all⟩
      rw [drawRecords, done]
      exact others

/-- The records that are kept for their short names are among those given.
Witness: induction over the records.
-/
theorem mem_lifecycleRecords {records : List Record} {entry : Text × Record}
    (member : entry ∈ lifecycleRecords records)
    : entry.2 ∈ records := by
  have walk (more : List Record) (kept : List (Text × Record))
      (inside
        : entry ∈ more.foldl (fun kept record => Json.put kept record.key record) kept)
      : entry ∈ kept ∨ entry.2 ∈ more := by
    induction more generalizing kept with
    | nil => exact Or.inl inside
    | cons record rest ih =>
        rcases ih _ inside with put | later
        · rcases Json.mem_put put with before | same
          · exact Or.inl before
          · exact Or.inr (same ▸ List.mem_cons_self)
        · exact Or.inr (List.mem_cons_of_mem record later)
  rcases walk records [] member with nothing | listed
  · cases nothing
  · exact listed

/-- A textual drawing can be written. -/
theorem dotLines_textual {drawing : Drawing} (textual : drawing.Textual)
    : ∃ lines, dotLines drawing = .ok lines := by
  have nodes
      : ∀ node ∈ drawing.nodes.take drawnNodes,
          ∃ line, nodeLine drawing.callbacks node = .ok line ∧ True := by
    intro node member
    obtain ⟨written, rfl⟩ := textual.nodes node (List.mem_of_mem_take member)
    exact ⟨_, rfl, trivial⟩
  have edges : ∀ edge ∈ drawing.edges.take drawnEdges, ∃ line, edgeLine edge = .ok line ∧ True := by
    rintro ⟨source, target⟩ member
    obtain ⟨written, rfl⟩ : IsText target := textual.edges _ (List.mem_of_mem_take member)
    exact ⟨_, rfl, trivial⟩
  obtain ⟨first, declared, -⟩ := mapM_ok nodes
  obtain ⟨last, linked, -⟩ := mapM_ok edges
  unfold dotLines
  rw [declared, linked]
  exact ⟨_, rfl⟩

/-- The graph of callbacks with typed bodies can be written. -/
theorem dot_typed {records : List Record}
    (typed : ∀ record ∈ records, ∀ method ∈ record.method, CallGraph.CallsTyped method)
    : ∃ written, dot records = .ok written := by
  have blank
      : ({ callbacks := (lifecycleRecords records).map Prod.fst, nodes := [], edges := [] }
          : Drawing).Textual :=
    ⟨by simp, by simp⟩
  obtain ⟨drawn, done, textual⟩ := drawRecords_textual
    (fun entry member => typed entry.2 (mem_lifecycleRecords member)) blank
  obtain ⟨lines, written⟩ := dotLines_textual textual
  unfold dot drawing
  rw [done]
  simp only [written, bind, Except.bind, pure, Except.pure]
  exact ⟨_, rfl⟩

end ArkLifecycle.Export
