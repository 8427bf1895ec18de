import ArkLifecycle.Program.Reader
import ArkLifecycle.Proofs.Schema.Agreement
import ArkLifecycle.Proofs.Text.Cutting
import Mathlib.Data.List.Forall2

/-! A program is what its document describes.

A description says of every part of a program which field of the document it is: texts stay what
they are, lists keep their order and length, positions are the integers that are written, and only
an absent field gives a value of its own. The reader fails where a document does not have the shape
it needs. The schema leaves no such place, and the program that is read from a valid document is the
one that it describes.
-/

namespace ArkLifecycle

open Schema

/-- Where each item is read as it should be, all of them are, in their order. -/
theorem mapM_forall₂ {α β : Type} {read : α → Except Fault β} {holds : α → β → Prop}
    {items : List α}
    (each : ∀ item ∈ items, ∃ result, read item = .ok result ∧ holds item result)
    : ∃ results, items.mapM read = .ok results ∧ List.Forall₂ holds items results := by
  induction items with
  | nil => exact ⟨[], rfl, .nil⟩
  | cons item rest ih =>
      obtain ⟨result, first, good⟩ := each item List.mem_cons_self
      obtain ⟨results, others, all⟩ := ih fun item member =>
        each item (List.mem_cons_of_mem _ member)
      refine ⟨result :: results, ?_, .cons good all⟩
      rw [List.mapM_cons, first, others]
      rfl

/-- Related things that are mapped to the same give the same list. -/
theorem map_eq_of_forall₂ {α β γ : Type} {related : α → β → Prop} {f : α → γ} {g : β → γ}
    (same : ∀ first second, related first second → f first = g second) {items : List α}
    {others : List β} (all : List.Forall₂ related items others)
    : items.map f = others.map g := by
  induction all with
  | nil => rfl
  | cons first _ ih => rw [List.map_cons, List.map_cons, ih, same _ _ first]

/-- Each result is that of one of the items. -/
theorem exists_item_of_forall₂ {α β : Type} {holds : α → β → Prop} {items : List α}
    {results : List β} (all : List.Forall₂ holds items results) {result : β}
    (member : result ∈ results)
    : ∃ item ∈ items, holds item result := by
  induction all with
  | nil => cases member
  | cons good _ ih =>
      rcases List.mem_cons.mp member with rfl | later
      · exact ⟨_, List.mem_cons_self, good⟩
      · obtain ⟨item, inside, good⟩ := ih later
        exact ⟨item, List.mem_cons_of_mem _ inside, good⟩

-----------------------------------------------------------------------------------------
-- Numbers
-----------------------------------------------------------------------------------------

namespace Binary64

theorem fraction_pos (mantissa : Nat) (exponent : Int) : 0 < (fraction mantissa exponent).2 := by
  unfold fraction
  split
  · exact Nat.one_pos
  · exact Nat.pow_pos Nat.two_pos

/-- A quotient of natural numbers is an integer if nothing remains of the division. -/
theorem eq_mul_iff {a b : Nat} (positive : 0 < b) (n : Int)
    : (a : Int) = n * b ↔ a % b = 0 ∧ ((a / b : Nat) : Int) = n := by
  constructor
  · intro same
    have divides : b ∣ a := Int.natCast_dvd_natCast.mp ⟨n, same.trans (Int.mul_comm n b)⟩
    refine ⟨Nat.mod_eq_zero_of_dvd divides, ?_⟩
    rw [Int.natCast_ediv, same]
    exact Int.mul_ediv_cancel n (by omega)
  · rintro ⟨whole, rfl⟩
    rw [← Int.natCast_mul, Nat.div_mul_cancel (Nat.dvd_of_mod_eq_zero whole)]

/-- A number is an integer if it has no fractional digits, and then it is the one that is left when
they are cut off.
-/
theorem eqInt_iff (x : Binary64) (n : Int)
    : x.eqInt n = true ↔ x.isIntegral = true ∧ x.truncate? = some n := by
  cases x with
  | nan payload => simp [eqInt, leInt, isIntegral]
  | infinity negative => cases negative <;> simp [eqInt, leInt, ltInt, isIntegral]
  | finite negative mantissa exponent =>
      have positive := fraction_pos mantissa exponent
      simp only [eqInt, leInt, ltInt, isIntegral, truncate?]
      generalize fraction mantissa exponent = quotient at positive ⊢
      obtain ⟨a, b⟩ := quotient
      cases negative with
      | false =>
          have same := eq_mul_iff (a := a) positive n
          simp only [Bool.false_eq_true, if_false, Bool.and_eq_true, Bool.not_eq_true',
            decide_eq_true_eq, decide_eq_false_iff_not, beq_iff_eq, Option.some_inj, ← same]
          omega
      | true =>
          have same := eq_mul_iff (a := a) positive (-n)
          rw [Int.neg_mul] at same
          have turned (whole : Int) : -whole = n ↔ whole = -n := by omega
          simp only [if_true, Bool.and_eq_true, Bool.not_eq_true', decide_eq_true_eq,
            decide_eq_false_iff_not, beq_iff_eq, Option.some_inj, turned, ← same]
          omega

/-- A number that is not below zero is no negative integer. -/
theorem nonneg_of_eqInt {x : Binary64} {n : Int} (same : x.eqInt n = true)
    (above : x.ltInt 0 = false)
    : 0 ≤ n := by
  cases x with
  | nan payload => cases same
  | infinity negative => cases negative <;> cases same
  | finite negative mantissa exponent =>
      have positive := fraction_pos mantissa exponent
      simp only [eqInt, leInt, ltInt, Int.zero_mul, Bool.and_eq_true, decide_eq_true_eq,
        decide_eq_false_iff_not] at same above
      by_contra below
      have product := Int.mul_neg_of_neg_of_pos (Int.not_le.mp below) (Int.natCast_pos.mpr positive)
      exact above (Int.lt_of_le_of_lt same.1 product)

theorem truncate?_of_isZero {x : Binary64} (zero : x.isZero = true) : x.truncate? = some 0 := by
  cases x with
  | finite negative mantissa exponent =>
      have none : (fraction mantissa exponent).1 = 0 := by
        rw [beq_iff_eq.mp zero, fraction]
        split <;> simp
      simp [truncate?, none]
  | _ => cases zero

end Binary64

-----------------------------------------------------------------------------------------
-- Documents of a type
-----------------------------------------------------------------------------------------

namespace TypeName

variable {v : Json}

theorem admits_string (admitted : TypeName.string.admits v = true)
    : ∃ written, v = .text written := by
  unfold admits at admitted
  split at admitted <;> simp_all

theorem admits_array (admitted : TypeName.array.admits v = true) : ∃ items, v = .array items := by
  unfold admits at admitted
  split at admitted <;> simp_all

theorem admits_object (admitted : TypeName.object.admits v = true)
    : ∃ fields, v = .object fields := by
  unfold admits at admitted
  split at admitted <;> simp_all

theorem admits_null (admitted : TypeName.null.admits v = true) : v = .null := by
  unfold admits at admitted
  split at admitted <;> simp_all

end TypeName

/-- The document is the integer, which may be written with fractional digits if they are zeros. -/
inductive Json.IsInteger : Json → Int → Prop
  | whole (n : Int) : IsInteger (.int n) n
  | fractional {x : Binary64} {n : Int} : x.eqInt n = true → IsInteger (.float x) n

section Types

variable {v : Json}

/-- What is admitted as an integer is read as the one that it is. -/
theorem TypeName.admits_integer (admitted : TypeName.integer.admits v = true)
    : ∃ n, v.toInt = .ok n ∧ v.IsInteger n ∧ (v.truthy = false → n = 0) := by
  cases v with
  | scalar value =>
      cases value with
      | int n =>
          refine ⟨n, rfl, .whole n, fun zero => ?_⟩
          simpa [Json.truthy, Scalar.truthy] using zero
      | float x =>
          cases cut : x.truncate? with
          | none =>
              cases x with
              | finite negative mantissa exponent => cases cut
              | _ => cases admitted
          | some n =>
              refine ⟨n, ?_, .fractional ((x.eqInt_iff n).mpr ⟨admitted, cut⟩), ?_⟩
              · simp only [Json.toInt, cut]
              · intro zero
                have none : x.isZero = true := by simpa [Json.truthy, Scalar.truthy] using zero
                exact (Option.some.inj ((Binary64.truncate?_of_isZero none).symm.trans cut)).symm
      | _ => cases admitted
  | _ => cases admitted

theorem admits_of_agrees {type : TypeName} (agrees : Agrees v (.type [type]))
    : type.admits v = true := by
  obtain ⟨other, listed, admitted⟩ := agrees
  exact List.mem_singleton.mp listed ▸ admitted

theorem text_or_null {allowed : List TypeName} (agrees : Agrees v (.type allowed))
    (texts : allowed ⊆ [.string, .null])
    : (∃ written, v = .text written) ∨ v = .null := by
  obtain ⟨type, listed, admitted⟩ := agrees
  have either : type = .string ∨ type = .null := by simpa using texts listed
  rcases either with rfl | rfl
  · exact Or.inl (TypeName.admits_string admitted)
  · exact Or.inr (TypeName.admits_null admitted)

/-- An integer that is not below zero is not negative. -/
theorem Json.IsInteger.nonneg {n : Int} (integer : v.IsInteger n)
    (agrees : Agrees v (.minimum (.int 0)))
    : 0 ≤ n := by
  cases integer with
  | whole =>
      obtain ⟨least, ⟨⟩, -, above⟩ := agrees _ rfl rfl
      exact Int.not_lt.mp (of_decide_eq_false above)
  | fractional same =>
      obtain ⟨least, ⟨⟩, -, above⟩ := agrees _ rfl rfl
      exact Binary64.nonneg_of_eqInt same above

end Types

-----------------------------------------------------------------------------------------
-- Fields of a mapping
-----------------------------------------------------------------------------------------

namespace Json

/-- The document is a mapping with fields of which this is known. -/
def Mapping {α : Type} (known : Fields → α → Prop) (v : Json) (part : α) : Prop :=
  ∃ fields, v = .object fields ∧ known fields part

section Described

variable (fields : Fields) (name : Text)

/-- The field is the text. -/
def HasText (written : Text) : Prop :=
  lookup fields (.text name) = some (.text written)

/-- The field is the text; it is the empty one if the field is absent or null. -/
inductive HasTextOrNone : Text → Prop
  | absent : lookup fields (.text name) = none → HasTextOrNone ""
  | null : lookup fields (.text name) = some .null → HasTextOrNone ""
  | given {written : Text}
    : lookup fields (.text name) = some (.text written) → HasTextOrNone written

/-- The field is the integer; it is the default if the field is absent. -/
inductive HasInteger (default : Int) : Int → Prop
  | absent : lookup fields (.text name) = none → HasInteger default default
  | given {value : Json} {n : Int}
    : lookup fields (.text name) = some value → value.IsInteger n → HasInteger default n

/-- The field is a position, which is zero if the field is absent. -/
structure HasPosition (n : Int) : Prop where
  integer : HasInteger fields name 0 n
  nonneg : 0 ≤ n

/-- These are the items of the field; there are none if the field is absent. -/
def HasItems (items : List Json) : Prop :=
  (lookup fields (.text name)).getD (.array []) = .array items

/-- The items of the field are described one by one, in their order. -/
def Lists {α : Type} (known : Json → α → Prop) (parts : List α) : Prop :=
  ∃ items, HasItems fields name items ∧ List.Forall₂ known items parts

/-- The field, if it is there, is as the rules ask. -/
def FieldAgrees (rules : List Rule) : Prop :=
  ∀ value, lookup fields (.text name) = some value → AgreesAll value rules

end Described

variable {fields : Fields} {name : Text}

/-- What is listed is described by one of the items. -/
theorem Lists.exists_item {α : Type} {known : Json → α → Prop} {parts : List α} {part : α}
    (lists : Lists fields name known parts) (member : part ∈ parts)
    : ∃ items item, HasItems fields name items ∧ item ∈ items ∧ known item part := by
  obtain ⟨items, found, all⟩ := lists
  obtain ⟨item, inside, described⟩ := exists_item_of_forall₂ all member
  exact ⟨items, item, found, inside, described⟩

theorem field?_object (fields : Fields) (name : Text)
    : (Json.object fields).field? name = .ok (lookup fields (.text name)) :=
  rfl

/-- A text that must be there is read. -/
theorem textField_has (required : (lookup fields (.text name)).isSome)
    (agrees : FieldAgrees fields name [.type [.string]])
    : ∃ written, (Json.object fields).textField name = .ok written ∧ HasText fields name written
    := by
  obtain ⟨value, found⟩ := Option.isSome_iff_exists.mp required
  obtain ⟨written, rfl⟩ := TypeName.admits_string (admits_of_agrees (agrees value found).1)
  refine ⟨written, ?_, found⟩
  simp only [textField, field?_object, found, bind, Except.bind, display]

/-- A text that may be null is read. -/
theorem textFieldOrNone_has {allowed : List TypeName}
    (agrees : FieldAgrees fields name [.type allowed]) (texts : allowed ⊆ [.string, .null])
    : ∃ written,
        (Json.object fields).textFieldOrNone name = .ok written
        ∧ HasTextOrNone fields name written := by
  unfold textFieldOrNone
  rw [field?_object]
  cases found : lookup fields (.text name) with
  | none => exact ⟨"", rfl, .absent found⟩
  | some value =>
      rcases text_or_null (agrees value found).1 texts with ⟨written, rfl⟩ | rfl
      · refine ⟨written, ?_, .given found⟩
        cases empty : written.isEmpty with
        | true =>
            cases Text.isEmpty_iff.mp empty
            rfl
        | false => exact if_pos (by simp [truthy, Scalar.truthy, empty])
      · exact ⟨"", rfl, .null found⟩

/-- A callee that is a text is a signature; it is unresolved if it is the empty one. -/
theorem callee_has (agrees : FieldAgrees fields name [.type [.string, .null]])
    : ∃ written,
        HasTextOrNone fields name written
        ∧ Callee.ofJson (lookup fields (.text name))
          = if written = "" then .unresolved else .signature written := by
  cases found : lookup fields (.text name) with
  | none => exact ⟨"", .absent found, rfl⟩
  | some value =>
      rcases text_or_null (agrees value found).1 (List.Subset.refl _) with ⟨written, rfl⟩ | rfl
      · refine ⟨written, .given found, ?_⟩
        cases empty : written.isEmpty with
        | true =>
            cases Text.isEmpty_iff.mp empty
            rfl
        | false =>
            have some : written ≠ "" := fun none => by simp [Text.isEmpty_iff.mpr none] at empty
            rw [if_neg some, Callee.ofJson, if_pos (by simp [truthy, Scalar.truthy, empty])]
      · exact ⟨"", .null found, rfl⟩

/-- An integer is read, or else its default. -/
theorem fieldD_has (agrees : FieldAgrees fields name [.type [.integer]]) (index : Nat)
    : ∃ n,
        ((lookup fields (.text name)).getD (.ofNat index)).toInt = .ok n
        ∧ HasInteger fields name index n := by
  cases found : lookup fields (.text name) with
  | none => exact ⟨index, rfl, .absent found⟩
  | some value =>
      obtain ⟨n, told, integer, -⟩ :=
        TypeName.admits_integer (admits_of_agrees (agrees value found).1)
      exact ⟨n, told, .given found integer⟩

/-- A position is read. -/
theorem countField_has (agrees : FieldAgrees fields name Program.positionRule)
    : ∃ n, (Json.object fields).countField name = .ok n ∧ HasPosition fields name n := by
  unfold countField
  rw [field?_object]
  cases found : lookup fields (.text name) with
  | none => exact ⟨0, rfl, .absent found, Int.le_refl 0⟩
  | some value =>
      obtain ⟨type, bound, -⟩ := agrees value found
      obtain ⟨n, told, integer, zero⟩ := TypeName.admits_integer (admits_of_agrees type)
      refine ⟨n, ?_, .given found integer, integer.nonneg bound⟩
      cases shown : value.truthy with
      | true => exact (if_pos shown).trans told
      | false =>
          cases zero shown
          exact if_neg (by simp [shown])

/-- The items of a list are found, and each is as its rules ask. -/
theorem listField_has {rules : List Rule}
    (agrees : FieldAgrees fields name [.type [.array], .items rules])
    : ∃ items,
        (Json.object fields).listField name = .ok items
        ∧ HasItems fields name items
        ∧ ∀ item ∈ items, AgreesAll item rules := by
  unfold listField HasItems
  rw [field?_object]
  cases found : lookup fields (.text name) with
  | none => exact ⟨[], rfl, rfl, by simp⟩
  | some value =>
      obtain ⟨list, each, -⟩ := agrees value found
      obtain ⟨items, rfl⟩ := TypeName.admits_array (admits_of_agrees list)
      exact ⟨items, by cases items <;> rfl, rfl, each items rfl⟩

/-- If all documents that agree are read as they should be, so is a list whose items must agree. -/
theorem listField_lists {α : Type} {rules : List Rule} {read : Json → Except Fault α}
    {known : Json → α → Prop}
    (each : ∀ {item}, AgreesAll item rules → ∃ part, read item = .ok part ∧ known item part)
    (agrees : FieldAgrees fields name [.type [.array], .items rules])
    : ∃ items parts,
        (Json.object fields).listField name = .ok items
        ∧ items.mapM read = .ok parts
        ∧ Lists fields name known parts := by
  obtain ⟨items, listed, found, agree⟩ := listField_has agrees
  obtain ⟨parts, read, good⟩ := mapM_forall₂ fun item member => each (agree item member)
  exact ⟨items, parts, listed, read, items, found, good⟩

end Json

-----------------------------------------------------------------------------------------
-- Descriptions of the parts of a program
-----------------------------------------------------------------------------------------

open Json

/-- The fields describe the expression. -/
structure Expr.DescribedBy (fields : Fields) (expr : Expr) : Prop where
  text : HasText fields "text" expr.text
  callee
    : ∃ written,
        HasTextOrNone fields "callee" written
        ∧ expr.callee = if written = "" then .unresolved else .signature written

/-- The fields describe the statement. -/
structure Stmt.DescribedBy (fields : Fields) (stmt : Stmt) : Prop where
  text : HasText fields "text" stmt.text
  line : HasPosition fields "line" stmt.line
  column : HasPosition fields "col" stmt.column
  exprs : Lists fields "exprs" (Mapping Expr.DescribedBy) stmt.exprs

/-- The fields describe the block; without an id its place is its id. -/
structure Block.DescribedBy (index : Nat) (fields : Fields) (block : Block) : Prop where
  id : HasInteger fields "id" index block.id
  stmts : Lists fields "stmts" (Mapping Stmt.DescribedBy) block.stmts

/-- The fields describe the graph. -/
structure Cfg.DescribedBy (fields : Fields) (cfg : Cfg) : Prop where
  blocks
    : ∃ items,
        HasItems fields "blocks" items
        ∧ List.Forall₂ (fun item => Mapping (Block.DescribedBy item.2) item.1) items.zipIdx
            cfg.blocks

/-- The body of a method is missing if it is absent or null; otherwise there is one, even if it has
no blocks.
-/
inductive Method.HasBody (fields : Fields) : Option Cfg → Prop
  | absent : lookup fields (.text "cfg") = none → HasBody fields none
  | null : lookup fields (.text "cfg") = some .null → HasBody fields none
  | given {value : Json} {cfg : Cfg}
    : lookup fields (.text "cfg") = some value
      → Mapping Cfg.DescribedBy value cfg
      → HasBody fields (some cfg)

/-- The fields describe the method of a class, which has the default signature if it is given none.
-/
structure Method.DescribedBy (owner path : Text) (fields : Fields) (method : Method) : Prop where
  name : HasText fields "name" method.name
  className : method.className = owner
  filePath : method.filePath = path
  signature
    : ∃ written,
        HasTextOrNone fields "signature" written
        ∧ method.signature
          = if written = "" then Method.defaultSignature path owner method.name else written
  signed : method.signature ≠ ""
  line : HasPosition fields "line" method.line
  column : HasPosition fields "col" method.column
  cfg : Method.HasBody fields method.cfg

/-- The fields describe the class, which stands in a file with the path. -/
structure ClassDecl.DescribedBy (path : Text) (fields : Fields) (decl : ClassDecl) : Prop where
  name : HasText fields "name" decl.name
  filePath : decl.filePath = path
  superclass : HasTextOrNone fields "superclass" decl.superclass
  decorators : Lists fields "decorators" (fun item marker => item = .text marker) decl.decorators
  methods : Lists fields "methods" (Mapping (Method.DescribedBy decl.name path)) decl.methods

/-- The fields describe the file. -/
structure SourceFile.DescribedBy (fields : Fields) (file : SourceFile) : Prop where
  path : HasText fields "path" file.path
  classes : Lists fields "classes" (Mapping (ClassDecl.DescribedBy file.path)) file.classes

/-- The fields describe the program, whose indices are those of its files. -/
structure Program.DescribedBy (fields : Fields) (program : Program) : Prop where
  files : Lists fields "files" (Mapping SourceFile.DescribedBy) program.files
  indexed : program = .ofFiles program.files

-----------------------------------------------------------------------------------------
-- Reading
-----------------------------------------------------------------------------------------

namespace Program

variable {v : Json}

theorem readExpr_described (agrees : AgreesAll v exprSchema)
    : ∃ expr, readExpr v = .ok expr ∧ Mapping Expr.DescribedBy v expr := by
  obtain ⟨mapping, required, properties, -⟩ := agrees
  obtain ⟨fields, rfl⟩ := TypeName.admits_object (admits_of_agrees mapping)
  obtain ⟨text, callee, -⟩ := properties fields rfl
  obtain ⟨written, told, here⟩ := textField_has (required fields rfl _ List.mem_cons_self) text
  refine ⟨⟨written, _⟩, ?_, fields, rfl, here, callee_has callee⟩
  rw [readExpr, told]
  rfl

theorem readStmt_described (agrees : AgreesAll v stmtSchema)
    : ∃ stmt, readStmt v = .ok stmt ∧ Mapping Stmt.DescribedBy v stmt := by
  obtain ⟨mapping, required, properties, -⟩ := agrees
  obtain ⟨fields, rfl⟩ := TypeName.admits_object (admits_of_agrees mapping)
  obtain ⟨text, line, column, exprs, -⟩ := properties fields rfl
  obtain ⟨items, found, listed, read, lists⟩ := listField_lists readExpr_described exprs
  obtain ⟨written, told, here⟩ := textField_has (required fields rfl _ List.mem_cons_self) text
  obtain ⟨place, placed, above⟩ := countField_has line
  obtain ⟨offset, indented, beside⟩ := countField_has column
  refine ⟨⟨written, place, offset, found⟩, ?_, fields, rfl, here, above, beside, lists⟩
  simp only [readStmt, listed, read, told, placed, indented, bind, Except.bind, pure, Except.pure]

theorem readBlock_described (agrees : AgreesAll v blockSchema) (index : Nat)
    : ∃ block, readBlock v index = .ok block ∧ Mapping (Block.DescribedBy index) v block := by
  obtain ⟨mapping, properties, -⟩ := agrees
  obtain ⟨fields, rfl⟩ := TypeName.admits_object (admits_of_agrees mapping)
  obtain ⟨id, stmts, -⟩ := properties fields rfl
  obtain ⟨items, found, listed, read, lists⟩ := listField_lists readStmt_described stmts
  obtain ⟨n, told, numbered⟩ := fieldD_has id index
  refine ⟨⟨n, found⟩, ?_, fields, rfl, numbered, lists⟩
  simp only [readBlock, listed, read, fieldD, field?_object, told, bind, Except.bind, pure,
    Except.pure]

/-- Blocks are read with their places. -/
theorem readCfg_described (agrees : AgreesAll v cfgSchema)
    : ∃ cfg, readCfg (some v) = .ok (some cfg) ∧ Mapping Cfg.DescribedBy v cfg := by
  obtain ⟨mapping, -, properties, -⟩ := agrees
  obtain ⟨fields, rfl⟩ := TypeName.admits_object (admits_of_agrees mapping)
  obtain ⟨blocks, -⟩ := properties fields rfl
  obtain ⟨items, listed, found, each⟩ := listField_has blocks
  obtain ⟨parts, read, described⟩ := mapM_forall₂ fun item member =>
    readBlock_described (each _ (List.fst_mem_of_mem_zipIdx member)) item.2
  refine ⟨⟨parts⟩, ?_, fields, rfl, items, found, described⟩
  simp only [readCfg, listed, read, bind, Except.bind, pure, Except.pure]

/-- A body is null, or is read. -/
theorem readCfg_hasBody {fields : Fields}
    (agrees : FieldAgrees fields "cfg" [.oneOf [[.type [.null]], cfgSchema]])
    : ∃ body,
        readCfg (lookup fields (.text "cfg")) = .ok body ∧ Method.HasBody fields body := by
  cases given : lookup fields (.text "cfg") with
  | none => exact ⟨none, rfl, .absent given⟩
  | some value =>
      obtain ⟨⟨⟨missing, -⟩, -⟩ | ⟨-, ⟨graph, -⟩ | ⟨-, neither⟩⟩, -⟩ := agrees value given
      · cases TypeName.admits_null (admits_of_agrees missing)
        exact ⟨none, rfl, .null given⟩
      · obtain ⟨cfg, read, described⟩ := readCfg_described graph
        exact ⟨some cfg, read, .given given described⟩
      · cases neither

theorem defaultSignature_ne_empty (filePath className name : Text)
    : Method.defaultSignature filePath className name ≠ "" := by
  intro none
  have letters := Text.eq_iff_toList.mp none
  rw [Method.defaultSignature] at letters
  simp [Signature.render, Text.ofString, Text.ofChars] at letters

theorem readMethod_described (agrees : AgreesAll v methodSchema) (className filePath : Text)
    : ∃ method,
        readMethod className filePath v = .ok method
        ∧ Mapping (Method.DescribedBy className filePath) v method := by
  obtain ⟨mapping, required, properties, -⟩ := agrees
  obtain ⟨fields, rfl⟩ := TypeName.admits_object (admits_of_agrees mapping)
  obtain ⟨name, signature, line, column, cfg, -⟩ := properties fields rfl
  obtain ⟨called, named, here⟩ := textField_has (required fields rfl _ List.mem_cons_self) name
  obtain ⟨signed, known, written⟩ := textFieldOrNone_has signature (by simp)
  obtain ⟨place, placed, above⟩ := countField_has line
  obtain ⟨offset, indented, beside⟩ := countField_has column
  obtain ⟨body, read, given⟩ := readCfg_hasBody cfg
  simp only [readMethod, named, known, placed, indented, field?_object, read, bind, Except.bind,
    pure, Except.pure]
  refine ⟨_, rfl, fields, rfl, here, rfl, rfl, ⟨signed, written, ?_⟩, ?_, above, beside, given⟩
  · simp only [Text.isEmpty_iff]
  · dsimp only
    split
    · exact defaultSignature_ne_empty _ _ _
    · next some => exact fun none => some (Text.isEmpty_iff.mpr none)

theorem readClass_described (agrees : AgreesAll v classSchema) (filePath : Text)
    : ∃ decl,
        readClass filePath v = .ok decl ∧ Mapping (ClassDecl.DescribedBy filePath) v decl := by
  obtain ⟨mapping, required, properties, -⟩ := agrees
  obtain ⟨fields, rfl⟩ := TypeName.admits_object (admits_of_agrees mapping)
  obtain ⟨name, superclass, decorators, methods, -⟩ := properties fields rfl
  obtain ⟨called, named, here⟩ := textField_has (required fields rfl _ List.mem_cons_self) name
  obtain ⟨extended, inherited, above⟩ := textFieldOrNone_has superclass (by simp)
  have shown {item : Json} (agrees : AgreesAll item [.type [.string]])
      : ∃ marker, item.display = .ok marker ∧ item = .text marker := by
    obtain ⟨marker, rfl⟩ := TypeName.admits_string (admits_of_agrees agrees.1)
    exact ⟨marker, rfl, rfl⟩
  obtain ⟨markers, given, marked, decorated, markings⟩ := listField_lists shown decorators
  obtain ⟨items, found, listed, read, lists⟩ :=
    listField_lists (fun agrees => readMethod_described agrees called filePath) methods
  simp only [readClass, named, inherited, marked, decorated, listed, read, bind, Except.bind, pure,
    Except.pure]
  exact ⟨_, rfl, fields, rfl, here, rfl, above, markings, lists⟩

theorem readFile_described (agrees : AgreesAll v fileSchema)
    : ∃ file, readFile v = .ok file ∧ Mapping SourceFile.DescribedBy v file := by
  obtain ⟨mapping, required, properties, -⟩ := agrees
  obtain ⟨fields, rfl⟩ := TypeName.admits_object (admits_of_agrees mapping)
  obtain ⟨path, classes, -⟩ := properties fields rfl
  obtain ⟨placed, told, here⟩ := textField_has (required fields rfl _ List.mem_cons_self) path
  obtain ⟨items, found, listed, read, lists⟩ :=
    listField_lists (fun agrees => readClass_described agrees placed) classes
  simp only [readFile, told, listed, read, bind, Except.bind, pure, Except.pure]
  exact ⟨_, rfl, fields, rfl, here, lists⟩

/-- The files of a valid document are read. -/
theorem readFiles_described (agrees : AgreesAll v schema)
    : ∃ files,
        readFiles v = .ok files
        ∧ Mapping (fun fields => Lists fields "files" (Mapping SourceFile.DescribedBy)) v files
    := by
  obtain ⟨mapping, -, properties, -⟩ := agrees
  obtain ⟨fields, rfl⟩ := TypeName.admits_object (admits_of_agrees mapping)
  obtain ⟨-, -, listing, -⟩ := properties fields rfl
  obtain ⟨items, files, listed, done, lists⟩ := listField_lists readFile_described listing
  refine ⟨files, ?_, fields, rfl, lists⟩
  simp only [readFiles, listed, done, bind, Except.bind]

/-- The classes of a file have its path already. -/
theorem settle_described {fields : Fields} {file : SourceFile} (described : file.DescribedBy fields)
    : file.settle = file := by
  have same : ∀ decl ∈ file.classes,
      (if decl.filePath.isEmpty then { decl with filePath := file.path } else decl) = id decl := by
    intro decl member
    obtain ⟨_, _, -, -, _, -, description⟩ := described.classes.exists_item member
    rw [← description.filePath, ite_self, id]
  rw [SourceFile.settle, List.map_congr_left same, List.map_id]

/-- A valid document is read, whether it is checked again or not, and the program is the one that it
describes.
-/
theorem read_faithful {document : Json}
    (valid : Schema.validate schemaFile schema document = .ok ())
    : ∃ program,
        (∀ validated, read validated document = .ok program)
        ∧ Mapping Program.DescribedBy document program := by
  obtain ⟨files, done, fields, rfl, lists⟩ := readFiles_described ((validate_ok_iff _ _ _).mp valid)
  have settled : (ofFiles files).files = files := by
    have same : ∀ file ∈ files, file.settle = id file := by
      intro file member
      obtain ⟨_, _, -, -, _, -, description⟩ := lists.exists_item member
      exact settle_described description
    exact (List.map_congr_left same).trans (List.map_id files)
  refine ⟨.ofFiles files, ?_, fields, rfl, settled.symm ▸ lists, by rw [settled]⟩
  intro validated
  cases validated <;>
    simp only [read, valid, done, bind, Except.bind, pure, Except.pure, if_true, Bool.false_eq_true,
      if_false]

/-- (sparseDocument) leaves out what may be left out: one method has no body and stands on a line
that is written with a fraction, the other has a body without blocks.
-/
def sparseDocument : Json :=
  .object [
    ("files", .array [
      .object [
        ("path", .text "a.ets"),
        ("classes", .array [
          .object [
            ("name", .text "A"),
            ("superclass", .null),
            ("exported", .bool true),
            ("methods", .array [
              .object [
                ("name", .text "f"),
                ("line", .float (Binary64.ofNat 3)),
                ("cfg", .null)],
              .object [
                ("name", .text "g"),
                ("cfg", .object [("blocks", .array [])])]])]])]])]

/-- The document is valid, and what it leaves out gets its default. -/
theorem read_faithful_sparse
    : Schema.validate schemaFile schema sparseDocument = .ok ()
      ∧ ∃ program,
          read true sparseDocument = .ok program
          ∧ Mapping Program.DescribedBy sparseDocument program
          ∧ (methodsOf program.files).map Method.signature = ["@a.ets: A.f()", "@a.ets: A.g()"]
          ∧ (methodsOf program.files).map Method.line = [3, 0]
          ∧ (methodsOf program.files).map (fun method => method.cfg.map Cfg.isEmpty)
            = [none, some true] := by
  have valid : Schema.validate schemaFile schema sparseDocument = .ok () :=
    (validate_ok_iff _ _ _).mpr ((checkAll_eq_nil_iff [] _ _).mp rfl)
  obtain ⟨program, done, described⟩ := read_faithful valid
  have read : read false sparseDocument = .ok (.ofFiles _) := rfl
  cases read.symm.trans (done false)
  exact ⟨valid, _, done true, described, rfl, rfl, rfl⟩

end Program

end ArkLifecycle
