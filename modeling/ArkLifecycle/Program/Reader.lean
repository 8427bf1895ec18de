import ArkLifecycle.Json.Access
import ArkLifecycle.Program.Index
import ArkLifecycle.Program.Schema

/-! Reading an exported program from a document.

Names and texts are taken as they are displayed, so that a document nobody validated is read as
far as it can be. The first part that cannot be read is the fault.
-/

namespace ArkLifecycle.Program

/-- (readExpr v) reads an expression. -/
def readExpr (v : Json) : Except Fault Expr := do
  let text ← v.textField "text"
  return { text, callee := .ofJson (← v.field? "callee") }

/-- (readStmt v) reads a statement. -/
def readStmt (v : Json) : Except Fault Stmt := do
  let exprs ← (← v.listField "exprs").mapM readExpr
  return {
    text := ← v.textField "text"
    line := ← v.countField "line"
    column := ← v.countField "col"
    exprs }

/-- (readBlock v index) reads a basic block; without an id its place is its id. -/
def readBlock (v : Json) (index : Nat) : Except Fault Block := do
  let stmts ← (← v.listField "stmts").mapM readStmt
  return { id := ← (← v.fieldD "id" (.ofNat index)).toInt, stmts }

/-- (readCfg v) reads a control-flow graph, none when it is absent or null. -/
def readCfg (v : Option Json) : Except Fault (Option Cfg) := do
  match v with
  | none | some .null => return none
  | some v =>
      let blocks ← (← v.listField "blocks").zipIdx.mapM fun (block, index) =>
        readBlock block index
      return some { blocks }

/-- (readMethod className filePath v) reads a method of a class. -/
def readMethod (className filePath : Text) (v : Json) : Except Fault Method := do
  let name ← v.textField "name"
  let signature ← v.textFieldOrNone "signature"
  return {
    name
    className
    signature :=
      if signature.isEmpty then Method.defaultSignature filePath className name else signature
    filePath
    line := ← v.countField "line"
    column := ← v.countField "col"
    cfg := ← readCfg (← v.field? "cfg") }

/-- (readClass filePath v) reads a class of a source file. -/
def readClass (filePath : Text) (v : Json) : Except Fault ClassDecl := do
  let name ← v.textField "name"
  let methods ← (← v.listField "methods").mapM (readMethod name filePath)
  return {
    name
    filePath
    superclass := ← v.textFieldOrNone "superclass"
    decorators := ← (← v.listField "decorators").mapM Json.display
    methods }

/-- (readFile v) reads a source file. -/
def readFile (v : Json) : Except Fault SourceFile := do
  let path ← v.textField "path"
  return { path, classes := ← (← v.listField "classes").mapM (readClass path) }

/-- (readFiles v) reads the source files of a program. -/
def readFiles (v : Json) : Except Fault (List SourceFile) := do
  (← v.listField "files").mapM readFile

/-- (read validated v) reads a program, after checking it against the schema when asked. -/
def read (validated : Bool) (v : Json) : Except Fault Program := do
  if validated then
    Schema.validate schemaFile schema v
  return ofFiles (← readFiles v)

end ArkLifecycle.Program
