import ArkLifecycle.Record
import ArkLifecycle.Session

/-! Scanning the body of a lifecycle callback.

Statements are visited in the order of the control-flow graph. Each one gives at most one data
flow, to the invocation in it, and at most one issue. The solver is called once at the entry of
the graph; whether it fails changes nothing else.
-/

namespace ArkLifecycle

/-- What the scan of one callback found. -/
structure ScanResult where
  flows : List DataFlow
  issues : List RiskIssue
  analyzed : Bool
  solverError : Option Text
deriving Repr, Inhabited

/-- How callbacks are scanned: whether weak signs count, what every call chain begins with, and
whether data flows are wanted.
-/
structure ScanOptions where
  weak : Bool
  lead : List Json
  extractFlows : Bool
deriving Repr, Inhabited

namespace Scan

/-- (nothing) is the result for a callback that has no body. -/
def nothing : ScanResult := ⟨[], [], false, none⟩

/-- (invocationText? stmt) is the text of the first invocation among the expressions of a
statement, or the text of the statement when that is one.
-/
def invocationText? (stmt : Stmt) : Option Text :=
  match stmt.exprs.find? fun expr => Invocation.isInvocation expr.text with
  | some expr => some expr.text
  | none => if Invocation.isInvocation stmt.text then some stmt.text else none

/-- (unnamed) stands in call chains for a target without a name. -/
def unnamed : Text := "unknown"

/-- (flowOf lead record stmt) is the data flow of a statement, if it has an invocation. -/
def flowOf (lead : List Json) (record : Record) (stmt : Stmt) : Option DataFlow :=
  (invocationText? stmt).map fun text =>
    { source := record.key
      target := Invocation.label text
      line := stmt.line
      chain := lead ++ [.text record.key, .text ((Invocation.target? text).getD unnamed)] }

/-- (issueOf weak record stmt) is the issue of a statement, if it shows a sign. -/
def issueOf (weak : Bool) (record : Record) (stmt : Stmt) : Option RiskIssue :=
  (Risk.assess weak stmt.text).map fun found =>
    { method := record.key
      className := record.className
      line := stmt.line
      description := found.description
      severity := found.severity
      confidence := found.confidence }

/-- (runSolver host method cfg) calls the solver at the entry of a graph, if it has a statement
there, and gives the message it failed with.
-/
def runSolver (host : Host) (method : Method) (cfg : Cfg) : Activity (Option Text) := do
  match cfg.entryStmt? with
  | none => return none
  | some entry => return (← Activity.solve host ⟨method, cfg, entry⟩).map Fault.message

/-- (scanBody options record cfg) are the flows and issues in a graph. -/
def scanBody (options : ScanOptions) (record : Record) (cfg : Cfg)
    : List DataFlow × List RiskIssue :=
  (if options.extractFlows then cfg.stmts.filterMap (flowOf options.lead record) else [],
    cfg.stmts.filterMap (issueOf options.weak record))

/-- (scan host options record) scans the body of a callback. -/
def scan (host : Host) (options : ScanOptions) (record : Record) : Activity ScanResult := do
  match record.method with
  | none => return nothing
  | some method =>
      match ← Activity.bodyOf host method with
      | none => return nothing
      | some cfg =>
          if cfg.isEmpty then
            return nothing
          else
            let solverError ← runSolver host method cfg
            let (flows, issues) := scanBody options record cfg
            return { flows, issues, analyzed := true, solverError }

end Scan

end ArkLifecycle
