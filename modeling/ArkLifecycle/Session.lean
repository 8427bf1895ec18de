import ArkLifecycle.Operation
import ArkLifecycle.Program.Index
import ArkLifecycle.Trace

/-! The surroundings of an analysis, and what it does to them.

An analysis asks the program questions that may be denied, calls a solver that may fail, logs
events that may be refused, and looks up now and then whether it should stop. All of this is
decided by the host, on the ground of what happened before. A session records the questions, calls
and looks, the spans that ended and the events that were logged; it is kept when a task fails.
-/

namespace ArkLifecycle

/-- A question to the program. -/
inductive Query where
  | methods (decl : ClassDecl)
  | superclass (decl : ClassDecl)
  | marker (decl : ClassDecl) (marker : Json)
  | body (method : Method)
deriving Repr, Inhabited

/-- A call of the undefined-value solver at the entry of a method. -/
structure SolverCall where
  method : Method
  cfg : Cfg
  entry : Stmt
deriving Repr, Inhabited

/-- Something worth logging. -/
structure Event where
  type : Json
  fields : Json.Fields
deriving Repr, Inhabited

/-- (Event.stageStart stage fields) is the event that a stage begins. -/
def Event.stageStart (stage : Json) (fields : Json.Fields) : Event :=
  ⟨.text "stage.start", ("stage", stage) :: fields⟩

/-- (Event.stageEnd stage status fields) is the event that a stage ends. -/
def Event.stageEnd (stage : Json) (status : Json) (fields : Json.Fields) : Event :=
  ⟨.text "stage.end", ("stage", stage) :: ("status", status) :: fields⟩

/-- What decides about an analysis from outside. Histories begin with the latest item. -/
structure Host where
  deny : List Query → Query → Option Fault
  solve : List SolverCall → SolverCall → Option Fault
  refuse : Event → Option Fault
  stop : Nat → Bool
  context : RunContext

/-- What an analysis has done so far. Queries and solver calls begin with the latest one, spans
and events with the earliest.
-/
structure Session where
  queries : List Query
  solved : List SolverCall
  looks : Nat
  openSpans : List Json
  spans : List Span
  events : List Event
deriving Inhabited

/-- A part of an analysis: it leaves a session behind, whether it succeeds or fails. -/
abbrev Activity := ExceptT Fault (StateM Session)

/-- (Host.willing) denies and refuses nothing, never fails and never stops. -/
def Host.willing : Host where
  deny _ _ := none
  solve _ _ := none
  refuse _ := none
  stop _ := false
  context := .unknown

namespace Session

/-- (fresh) is the session in which nothing has happened. -/
def fresh : Session := ⟨[], [], 0, [], [], []⟩

/-- (logEvent session event) adds an event to the log. -/
def logEvent (session : Session) (event : Event) : Session :=
  { session with events := session.events ++ [event] }

/-- (openSpan session name) begins a span. -/
def openSpan (session : Session) (name : Json) : Session :=
  { session with openSpans := name :: session.openSpans }

/-- (closeSpan session outer name attributes) ends a span that was begun inside of `outer`. -/
def closeSpan (session : Session) (outer : List Json) (name : Json)
    (attributes : Json.Fields)
    : Session :=
  { session with
    openSpans := outer
    spans := session.spans ++ [⟨name, outer.head?, attributes⟩] }

end Session

namespace Activity

/-- (ask host query) puts a question to the program; it fails when the host denies it. -/
def ask (host : Host) (query : Query) : Activity Unit := do
  let session ← get
  set { session with queries := query :: session.queries }
  match host.deny session.queries query with
  | some fault => throw fault
  | none => return ()

/-- (methodsOf host decl) are the methods of a class. -/
def methodsOf (host : Host) (decl : ClassDecl) : Activity (List Method) := do
  ask host (.methods decl)
  return decl.methods

/-- (carries host decl marker) asks whether a class is decorated with a marker. -/
def carries (host : Host) (decl : ClassDecl) (marker : Json) : Activity Bool := do
  ask host (.marker decl marker)
  return decl.carries marker

/-- (bodyOf host method) is the control-flow graph of a method. -/
def bodyOf (host : Host) (method : Method) : Activity (Option Cfg) := do
  ask host (.body method)
  return method.cfg

/-- (solve host call) calls the solver and gives the fault it failed with, if it did. -/
def solve (host : Host) (call : SolverCall) : Activity (Option Fault) := do
  let session ← get
  set { session with solved := call :: session.solved }
  return host.solve session.solved call

/-- (shouldStop host) looks up whether the analysis should stop. -/
def shouldStop (host : Host) : Activity Bool := do
  let session ← get
  set { session with looks := session.looks + 1 }
  return host.stop session.looks

/-- (attempt task) runs a task and gives its fault as a value. -/
def attempt {α : Type} (task : Activity α) : Activity (Except Fault α) :=
  ExceptT.mk fun session =>
    let (result, session) := task.run session
    (.ok result, session)

/-- (log host event) logs an event; it fails when the host refuses it. -/
def log (host : Host) (event : Event) : Activity Unit :=
  match host.refuse event with
  | some fault => throw fault
  | none => modify fun session => session.logEvent event

/-- (spanOperation) is how a span is begun by hand: with a name, and attributes by their names. -/
def spanOperation : Operation := ⟨"span", ["name"], []⟩

/-- (within host name given task) runs a task inside a span, which ends also when the task fails.
-/
def within {α : Type} (host : Host) (name : Json) (given : Json.Fields)
    (task : Activity α)
    : Activity α :=
  ExceptT.mk fun session =>
    let (result, after) := task.run (session.openSpan name)
    (result, after.closeSpan session.openSpans name (Span.attributesOf host.context given))

/-- (span host name given task) runs a task inside a span of that name. -/
def span {α : Type} (host : Host) (name : Text) (given : Json.Fields)
    (task : Activity α)
    : Activity α :=
  within host (.text name) given task

end Activity

end ArkLifecycle
