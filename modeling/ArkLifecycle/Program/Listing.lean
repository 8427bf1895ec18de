import ArkLifecycle.Json.Access
import ArkLifecycle.Session

/-! A program laid out as a JSON document, with what follows from it: which files are tests, which
methods have a body, and where superclasses are declared.

Laying out a program asks it questions: for the methods of every class and the body of every method
in order, then for the superclass of every class.

This is for those who look into a program after it was read. An analysis asks the program itself.
-/

namespace ArkLifecycle

/-- (Expr.toJson expr) lays out an expression. -/
def Expr.toJson (expr : Expr) : Json :=
  .object [("text", .text expr.text), ("callee", expr.callee.toJson)]

/-- (Stmt.toJson stmt) lays out a statement. -/
def Stmt.toJson (stmt : Stmt) : Json :=
  .object [
    ("text", .text stmt.text),
    ("line", .int stmt.line),
    ("col", .int stmt.column),
    ("exprs", .array (stmt.exprs.map Expr.toJson))]

/-- (Block.toJson block) lays out a basic block. -/
def Block.toJson (block : Block) : Json :=
  .object [("id", .int block.id), ("stmts", .array (block.stmts.map Stmt.toJson))]

/-- (Cfg.toJson cfg) lays out a control-flow graph. -/
def Cfg.toJson (cfg : Cfg) : Json :=
  .object [
    ("is_empty", .bool cfg.isEmpty),
    ("first_stmt", Json.ofOption (fun (stmt : Stmt) => .text stmt.text) cfg.entryStmt?),
    ("blocks", .array (cfg.blocks.map Block.toJson))]

/-- (Method.layOut host method) lays out a method. -/
def Method.layOut (host : Host) (method : Method) : Activity Json := do
  let cfg ← Activity.bodyOf host method
  return .object [
    ("name", .text method.name),
    ("key", .text method.key),
    ("signature", .text method.signature),
    ("line", .int method.line),
    ("col", .int method.column),
    ("has_implementation", .bool method.hasImplementation),
    ("cfg", Json.ofOption Cfg.toJson cfg)]

/-- (ClassDecl.layOut host decl) lays out a class. -/
def ClassDecl.layOut (host : Host) (decl : ClassDecl) : Activity Json := do
  let methods ← Activity.methodsOf host decl
  return .object [
    ("name", .text decl.name),
    ("file_path", .text decl.filePath),
    ("superclass", .text decl.superclass),
    ("decorators", Json.texts decl.decorators),
    ("methods", .array (← methods.mapM (Method.layOut host)))]

/-- (SourceFile.layOut host file) lays out a source file. -/
def SourceFile.layOut (host : Host) (file : SourceFile) : Activity Json := do
  return .object [
    ("path", .text file.path),
    ("is_test", .bool (isTestPath file.path)),
    ("classes", .array (← file.classes.mapM (ClassDecl.layOut host)))]

namespace Program

/-- (superclassFile host program decl) is the file where the superclass of a class is declared. -/
def superclassFile (host : Host) (program : Program) (decl : ClassDecl) : Activity Json := do
  Activity.ask host (.superclass decl)
  return Json.ofOption (fun (above : ClassDecl) => .text above.filePath) (program.superclass? decl)

/-- (layOut host program) are the files of a program, the names of its classes, and the files
where their superclasses are declared.
-/
def layOut (host : Host) (program : Program) : Activity Json.Fields := do
  let files ← program.files.mapM (SourceFile.layOut host)
  let superclasses ← program.classes.mapM (superclassFile host program)
  return [
    ("files", .array files),
    ("class_names", Json.texts (program.classes.map ClassDecl.name)),
    ("superclasses", .array superclasses)]

/-- (lineOf program signature) is the line of the method with a signature. -/
def lineOf (program : Program) (signature : Json) : Except Fault Json := do
  match ← signature.name? with
  | .text signature =>
      return Json.ofOption (fun (method : Method) => .int method.line) (program.method? signature)
  | _ => return .null

/-- (signaturesOf program name) are the signatures of the methods of a name. -/
def signaturesOf (program : Program) (name : Json) : Except Fault Json := do
  match ← name.name? with
  | .text name => return Json.texts ((program.methodsNamed name).map Method.signature)
  | _ => return .array []

/-- (markersOf host program markers) says of every class which of the markers it carries. -/
def markersOf (host : Host) (program : Program) (markers : List Json) : Activity (List Json) :=
  program.classes.mapM fun decl => do
    return .array ((← markers.mapM (Activity.carries host decl)).map Json.bool)

end Program

end ArkLifecycle
