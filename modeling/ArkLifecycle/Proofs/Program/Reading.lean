import ArkLifecycle.Proofs.Json.Numerals
import ArkLifecycle.Proofs.Program.Fidelity

/-! Programs of valid documents are fit to be analyzed.

The program that is read from a valid document is the one that it describes. So all of its callees
are signatures or missing, and its lines can be shown if the numbers of the document can.
-/

namespace ArkLifecycle

open Json

/-- Where each item is read, all of them are. -/
theorem mapM_ok {α β : Type} {read : α → Except Fault β} {holds : β → Prop} {items : List α}
    (each : ∀ item ∈ items, ∃ result, read item = .ok result ∧ holds result)
    : ∃ results, items.mapM read = .ok results ∧ ∀ result ∈ results, holds result := by
  obtain ⟨results, done, all⟩
      : ∃ results,
          items.mapM read = .ok results ∧ List.Forall₂ (fun _ => holds) items results :=
    mapM_forall₂ each
  refine ⟨results, done, fun result member => ?_⟩
  obtain ⟨_, -, good⟩ := exists_item_of_forall₂ all member
  exact good

-----------------------------------------------------------------------------------------
-- Numbers in a part of a document
-----------------------------------------------------------------------------------------

namespace Json

variable {fields : Fields} {name : Text} {n : Int}

theorem Moderate.field {value : Json} (moderate : (Json.object fields).Moderate)
    (found : lookup fields (.text name) = some value)
    : value.Moderate := by
  obtain ⟨field, first, rfl⟩ := Option.map_eq_some_iff.mp found
  cases moderate with
  | object each => exact each field (List.mem_of_find?_eq_some first)

theorem HasItems.moderate {items : List Json} (found : HasItems fields name items) {item : Json}
    (member : item ∈ items) (moderate : (Json.object fields).Moderate)
    : item.Moderate := by
  unfold HasItems at found
  cases given : lookup fields (.text name) with
  | none =>
      rw [given] at found
      cases found
      cases member
  | some value =>
      rw [given] at found
      cases found
      cases moderate.field given with
      | array all => exact all item member

theorem showable_zero : Showable 0 :=
  digitsValue_lt (List.forall_mem_nil _) (Nat.zero_le Fault.numeralLimit)

/-- An integer can be shown if the numbers of its document can. -/
theorem IsInteger.showable {v : Json} (integer : v.IsInteger n) (moderate : v.Moderate)
    : Showable n := by
  cases integer with
  | whole =>
      obtain ⟨showable⟩ := moderate
      exact showable
  | fractional same =>
      obtain ⟨small⟩ := moderate
      exact Binary64.Moderate.showable small ((Binary64.eqInt_iff _ _).mp same).2

theorem HasPosition.showable (position : HasPosition fields name n)
    (moderate : (Json.object fields).Moderate)
    : Showable n := by
  cases position.integer with
  | absent => exact showable_zero
  | given found integer => exact integer.showable (moderate.field found)

/-- Fields inside of the document describe the part; their numbers are among those of the document.
-/
def Describes {α : Type} (document : Json) (known : Fields → α → Prop) (part : α) : Prop :=
  ∃ fields, known fields part ∧ (document.Moderate → (Json.object fields).Moderate)

/-- What describes a part of a part describes it in the whole, too. -/
theorem Describes.inside {α β : Type} {document : Json} {known : Fields → α → Prop} {whole : α}
    {also : Fields → β → Prop} {part : β} (describes : document.Describes known whole)
    (deeper : ∀ {fields}, known fields whole → (Json.object fields).Describes also part)
    : document.Describes also part := by
  obtain ⟨fields, description, moderate⟩ := describes
  obtain ⟨inner, further, small⟩ := deeper description
  exact ⟨inner, further, small ∘ moderate⟩

theorem HasItems.describes {α : Type} {known : Fields → α → Prop} {items : List Json} {item : Json}
    {part : α} (found : HasItems fields name items) (member : item ∈ items)
    (mapping : Mapping known item part)
    : (Json.object fields).Describes known part := by
  obtain ⟨inner, rfl, description⟩ := mapping
  exact ⟨inner, description, found.moderate member⟩

theorem Lists.describes {α : Type} {known : Fields → α → Prop} {parts : List α} {part : α}
    (lists : Lists fields name (Mapping known) parts) (member : part ∈ parts)
    : (Json.object fields).Describes known part := by
  obtain ⟨items, item, found, inside, mapping⟩ := lists.exists_item member
  exact found.describes inside mapping

end Json

-----------------------------------------------------------------------------------------
-- Parts of a program
-----------------------------------------------------------------------------------------

/-- A statement is fit to be analyzed: no callee is malformed, and the line can be shown if the
numbers of the document can.
-/
structure Stmt.Fit (document : Json) (stmt : Stmt) : Prop where
  typed : ∀ expr ∈ stmt.exprs, ∀ value, expr.callee ≠ .malformed value
  line : document.Moderate → Showable stmt.line

/-- All statements in the body of a method are fit. -/
def Method.Fit (document : Json) (method : Method) : Prop :=
  ∀ cfg ∈ method.cfg, ∀ stmt ∈ cfg.stmts, stmt.Fit document

theorem Stmt.fit_of_describes {document : Json} {stmt : Stmt}
    (describes : document.Describes Stmt.DescribedBy stmt)
    : stmt.Fit document := by
  obtain ⟨fields, description, moderate⟩ := describes
  constructor
  case typed =>
    intro expr member value
    obtain ⟨_, ⟨-, written, -, callee⟩, -⟩ := description.exprs.describes member
    rw [callee]
    split <;> simp
  case line => exact fun given => description.line.showable (moderate given)

/-- The statements of a graph are described inside of it. -/
theorem Cfg.DescribedBy.describes {fields : Fields} {cfg : Cfg}
    (description : cfg.DescribedBy fields) {stmt : Stmt} (member : stmt ∈ cfg.stmts)
    : (Json.object fields).Describes Stmt.DescribedBy stmt := by
  obtain ⟨items, found, all⟩ := description.blocks
  obtain ⟨block, listed, inside⟩ := List.mem_flatMap.mp member
  obtain ⟨item, placed, described⟩ := exists_item_of_forall₂ all listed
  have mapping := found.describes (List.fst_mem_of_mem_zipIdx placed) described
  exact mapping.inside fun block => block.stmts.describes inside

/-- The statements of a method are described inside of it. -/
theorem Method.DescribedBy.describes {owner path : Text} {fields : Fields} {method : Method}
    (description : method.DescribedBy owner path fields) {cfg : Cfg} (body : cfg ∈ method.cfg)
    {stmt : Stmt} (member : stmt ∈ cfg.stmts)
    : (Json.object fields).Describes Stmt.DescribedBy stmt := by
  have given := description.cfg
  rw [Option.mem_def.mp body] at given
  obtain ⟨-⟩ | ⟨-⟩ | ⟨found, parts, rfl, graph⟩ := given
  have describes : (Json.object fields).Describes Cfg.DescribedBy cfg :=
    ⟨parts, graph, fun moderate => moderate.field found⟩
  exact describes.inside fun graph => graph.describes member

namespace Program

/-- A valid document is read, and all methods in it are fit to be analyzed. -/
theorem read_valid {document : Json}
    (valid : Schema.validate schemaFile schema document = .ok ())
    : ∃ files,
        read true document = .ok (.ofFiles files)
        ∧ ∀ method ∈ methodsOf files, method.Fit document := by
  obtain ⟨files, done, fields, rfl, lists⟩ :=
    readFiles_described ((Schema.validate_ok_iff _ _ _).mp valid)
  refine ⟨files, ?_, ?_⟩
  · simp only [read, valid, done, bind, Except.bind, pure, Except.pure, if_true]
  intro method member cfg body stmt inside
  obtain ⟨decl, declared, here⟩ := List.mem_flatMap.mp member
  obtain ⟨file, given, within⟩ := List.mem_flatMap.mp declared
  refine Stmt.fit_of_describes ?_
  exact (lists.describes given).inside fun file =>
    (file.classes.describes within).inside fun decl =>
      (decl.methods.describes here).inside fun method => method.describes body inside

end Program

end ArkLifecycle
