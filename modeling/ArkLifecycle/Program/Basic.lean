import ArkLifecycle.Json.Basic
import ArkLifecycle.Signature

/-! The entities of an exported program.

A program is a list of source files with classes, methods and control-flow graphs, as a
compiler front end wrote them. Statements and expressions are known by their rendered text.
-/

namespace ArkLifecycle

/-- What the front end knows about the method that an expression calls. -/
inductive Callee where
  /-- The front end did not resolve the call. -/
  | unresolved
  /-- The call goes to the method with this signature. -/
  | signature (text : Text)
  /-- The export holds something that is no signature. -/
  | malformed (value : Json)
deriving Repr, Inhabited

/-- An expression of a statement. -/
structure Expr where
  text : Text
  callee : Callee
deriving Repr, Inhabited

/-- A statement and where it stands in its source file. -/
structure Stmt where
  text : Text
  line : Int
  column : Int
  exprs : List Expr
deriving Repr, Inhabited

/-- A basic block of a control-flow graph. -/
structure Block where
  id : Int
  stmts : List Stmt
deriving Repr, Inhabited

/-- A control-flow graph. One without blocks stands for a method without implementation. -/
structure Cfg where
  blocks : List Block
deriving Repr, Inhabited

/-- A method of a class. -/
structure Method where
  name : Text
  className : Text
  signature : Text
  filePath : Text
  line : Int
  column : Int
  cfg : Option Cfg
deriving Repr, Inhabited

/-- A class, with the name of its superclass, empty when it has none. -/
structure ClassDecl where
  name : Text
  filePath : Text
  superclass : Text
  decorators : List Text
  methods : List Method
deriving Repr, Inhabited

/-- A source file and its classes in order. -/
structure SourceFile where
  path : Text
  classes : List ClassDecl
deriving Repr, Inhabited

namespace Callee

/-- (ofJson value) reads the callee of an expression; an absent or empty one is unresolved. -/
def ofJson : Option Json → Callee
  | none => .unresolved
  | some value =>
      if value.truthy then
        match value with
        | .text written => .signature written
        | other => .malformed other
      else
        .unresolved

/-- (toJson callee) writes a callee, null when it is unresolved. -/
def toJson : Callee → Json
  | .unresolved => .null
  | .signature text => .text text
  | .malformed value => value

end Callee

namespace Cfg

/-- (isEmpty cfg) holds of a graph without blocks. -/
def isEmpty (cfg : Cfg) : Bool :=
  cfg.blocks.isEmpty

/-- (stmts cfg) are the statements of all blocks in order. -/
def stmts (cfg : Cfg) : List Stmt :=
  cfg.blocks.flatMap Block.stmts

/-- (entryStmt? cfg) is the first statement of the first block, if that block has one. -/
def entryStmt? (cfg : Cfg) : Option Stmt :=
  cfg.blocks.head?.bind fun block => block.stmts.head?

end Cfg

namespace Method

/-- (defaultSignature filePath className name) is the signature of a method that the export
gives none.
-/
def defaultSignature (filePath className name : Text) : Text :=
  Signature.render ⟨filePath, className, name, ""⟩

/-- (key method) is the short name of a method in reports. -/
def key (method : Method) : Text :=
  Signature.methodKey method.className method.name

/-- (isImplemented cfg) holds of a graph that is there and has a block. -/
def isImplemented : Option Cfg → Bool
  | some cfg => !cfg.isEmpty
  | none => false

/-- (hasImplementation method) holds when the method has a graph with a block. -/
def hasImplementation (method : Method) : Bool :=
  isImplemented method.cfg

end Method

/-- (isTestPath path) holds of the paths of files that hold tests. -/
def isTestPath (path : Text) : Bool :=
  Text.contains path "test" || Text.contains path "Test"

end ArkLifecycle
