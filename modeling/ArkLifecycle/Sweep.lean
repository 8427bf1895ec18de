import ArkLifecycle.Record
import ArkLifecycle.Scan
import ArkLifecycle.Session

/-! The sweep over all methods of a project.

Every method of every class is examined, whatever the role of the class, except constructors and
internal methods. Each pattern in a statement is an issue of its own. Before each class it is
looked up whether to stop.
-/

namespace ArkLifecycle

/-- What the sweep found, and counts of what it went through. -/
structure Sweep where
  issues : List ProjectIssue
  totalFiles : Nat
  totalClasses : Nat
  totalMethods : Nat
  analyzedMethods : Nat
  skippedFiles : Nat
  solverErrors : Nat
  cancelled : Bool
deriving Repr, Inhabited

namespace Sweep

/-- (toJson sweep) writes a sweep. -/
def toJson (sweep : Sweep) : Json :=
  .object [
    ("total_files", .ofNat sweep.totalFiles),
    ("total_classes", .ofNat sweep.totalClasses),
    ("total_methods", .ofNat sweep.totalMethods),
    ("analyzed_methods", .ofNat sweep.analyzedMethods),
    ("issues_found", .ofNat sweep.issues.length),
    ("skipped_files", .ofNat sweep.skippedFiles),
    ("solver_errors", .ofNat sweep.solverErrors),
    ("cancelled", .bool sweep.cancelled),
    ("issues", .array (sweep.issues.map ProjectIssue.toJson))]

/-- (isSweepable method) holds of all methods but constructors and internal ones. -/
def isSweepable (method : Method) : Bool :=
  method.name != "constructor" && !Text.startsWith method.name "__"

/-- (issuesOf path decl method stmt) are the issues of a statement. -/
def issuesOf (path : Text) (decl : ClassDecl) (method : Method) (stmt : Stmt)
    : List ProjectIssue :=
  (Risk.patterns stmt.text).map fun hit =>
    { filePath := path
      className := decl.name
      methodName := method.name
      line := stmt.line
      subject := hit.subject
      description := hit.description
      severity := hit.severity }

/-- (sweepMethod host path decl sweep method) examines a method. -/
def sweepMethod (host : Host) (path : Text) (decl : ClassDecl) (sweep : Sweep) (method : Method)
    : Activity Sweep := do
  if !isSweepable method then
    return sweep
  else
    let sweep := { sweep with analyzedMethods := sweep.analyzedMethods + 1 }
    match ← Activity.bodyOf host method with
    | none => return sweep
    | some cfg =>
        if cfg.isEmpty then
          return sweep
        else
          let failed ← Scan.runSolver host method cfg
          return { sweep with
            solverErrors := sweep.solverErrors + (if failed.isSome then 1 else 0)
            issues := sweep.issues ++ cfg.stmts.flatMap (issuesOf path decl method) }

/-- (sweepMethods host path decl sweep methods) examines methods one after the other. -/
def sweepMethods (host : Host) (path : Text) (decl : ClassDecl)
    : Sweep → List Method → Activity Sweep
  | sweep, [] => return sweep
  | sweep, method :: rest => do
      sweepMethods host path decl (← sweepMethod host path decl sweep method) rest

/-- (sweepClass host path sweep decl) examines the methods of a class. -/
def sweepClass (host : Host) (path : Text) (sweep : Sweep) (decl : ClassDecl)
    : Activity Sweep := do
  let methods ← Activity.methodsOf host decl
  sweepMethods host path decl
    { sweep with
      totalClasses := sweep.totalClasses + 1
      totalMethods := sweep.totalMethods + methods.length }
    methods

/-- (sweepClasses host path sweep classes) examines the classes of a file until it is to stop. -/
def sweepClasses (host : Host) (path : Text) : Sweep → List ClassDecl → Activity Sweep
  | sweep, [] => return sweep
  | sweep, decl :: rest => do
      if ← Activity.shouldStop host then
        return { sweep with cancelled := true }
      else
        sweepClasses host path (← sweepClass host path sweep decl) rest

/-- (sweepFiles host skipTests sweep files) examines files until it is to stop. -/
def sweepFiles (host : Host) (skipTests : Bool) : Sweep → List SourceFile → Activity Sweep
  | sweep, [] => return sweep
  | sweep, file :: rest =>
      if skipTests && isTestPath file.path then
        sweepFiles host skipTests { sweep with skippedFiles := sweep.skippedFiles + 1 } rest
      else do
        let sweep ← sweepClasses host file.path sweep file.classes
        if sweep.cancelled then return sweep else sweepFiles host skipTests sweep rest

/-- (run host program skipTests) sweeps a program. -/
def run (host : Host) (program : Program) (skipTests : Bool) : Activity Sweep :=
  sweepFiles host skipTests
    { issues := []
      totalFiles := program.files.length
      totalClasses := 0
      totalMethods := 0
      analyzedMethods := 0
      skippedFiles := 0
      solverErrors := 0
      cancelled := false }
    program.files

end Sweep

end ArkLifecycle
