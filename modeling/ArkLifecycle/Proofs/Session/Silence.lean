import ArkLifecycle.Analysis
import ArkLifecycle.Proofs.Session.Effect

/-! What an analysis does without logging anything.

Events are logged where a stage begins and ends, and nowhere in between: the questions to the
program, the calls of the solver and the looks whether to stop leave the log as it is, also when
they fail.
-/

namespace ArkLifecycle

open Effect

-----------------------------------------------------------------------------------------
-- Single steps
-----------------------------------------------------------------------------------------

namespace Activity

variable {α β : Type} {host : Host}

/-- The task logs nothing, whether it succeeds or fails. -/
def Silent (task : Activity α) : Prop :=
  Keeps Session.events task

theorem Silent.pure (value : α) : Silent (Pure.pure value) :=
  Keeps.pure value

theorem Silent.lift (result : Except Fault α) : Silent (liftM result) :=
  Keeps.lift result

theorem Silent.bind {task : Activity α} {next : α → Activity β} (first : Silent task)
    (second : ∀ value, Silent (next value))
    : Silent (task >>= next) :=
  Keeps.bind first second

theorem Silent.map {task : Activity α} (f : α → β) (silent : Silent task)
    : Silent (f <$> task) := by
  rw [map_eq_pure_bind]
  exact silent.bind fun value => .pure (f value)

theorem Silent.attempt {task : Activity α} (silent : Silent task) : Silent (attempt task) :=
  silent

theorem Silent.span {task : Activity α} (name : Text) (given : Json.Fields)
    (silent : Silent task)
    : Silent (span host name given task) :=
  fun before => silent (before.openSpan (.text name))

theorem silent_ask (query : Query) : Silent (ask host query) := by
  intro before
  rw [ask, Effect.outcome_bind_ok (outcome_get before),
    Effect.outcome_bind_ok (outcome_set _ before)]
  cases host.deny before.queries query <;> rfl

theorem silent_methodsOf (decl : ClassDecl) : Silent (methodsOf host decl) :=
  (silent_ask _).bind fun _ => .pure _

theorem silent_carries (decl : ClassDecl) (marker : Json) : Silent (carries host decl marker) :=
  (silent_ask _).bind fun _ => .pure _

theorem silent_bodyOf (method : Method) : Silent (bodyOf host method) :=
  (silent_ask _).bind fun _ => .pure _

theorem silent_solve (call : SolverCall) : Silent (solve host call) :=
  fun _ => rfl

theorem silent_shouldStop : Silent (shouldStop host) :=
  fun _ => rfl

end Activity

open Activity

variable {host : Host}

-----------------------------------------------------------------------------------------
-- Identification
-----------------------------------------------------------------------------------------

namespace Classification

theorem silent_anyAncestor (test : ClassDecl → Bool) (decl : ClassDecl) (ancestors : List ClassDecl)
    : Silent (anyAncestor host test decl ancestors) := by
  induction ancestors generalizing decl with
  | nil => exact (silent_ask _).bind fun _ => .pure _
  | cons parent rest ih =>
      refine (silent_ask _).bind fun _ => ?_
      split
      · exact .pure _
      · exact ih parent

theorem silent_isEntryContainer (program : Program) (catalog : Catalog) (decl : ClassDecl)
    : Silent (isEntryContainer host program catalog decl) := by
  dsimp only [isEntryContainer]
  split
  · exact .pure _
  · exact silent_anyAncestor _ _ _

theorem silent_carriesOne (decl : ClassDecl) (markers : List Json)
    : Silent (carriesOne host decl markers) := by
  induction markers with
  | nil => exact .pure _
  | cons marker rest ih =>
      refine (silent_carries decl marker).bind fun carried => ?_
      split
      · exact .pure _
      · exact ih

theorem silent_isUiComponent (catalog : Catalog) (decl : ClassDecl)
    : Silent (isUiComponent host catalog decl) := by
  unfold isUiComponent
  split
  · exact .pure _
  · exact silent_carriesOne decl _

theorem silent_roleOf (program : Program) (catalog : Catalog) (decl : ClassDecl)
    : Silent (roleOf host program catalog decl) := by
  refine (Silent.lift _).bind fun synthetic => ?_
  split
  · exact .pure _
  refine (silent_isEntryContainer program catalog decl).bind fun container => ?_
  split
  · exact .pure _
  refine (silent_isUiComponent catalog decl).bind fun component => ?_
  split <;> exact .pure _

theorem silent_classify (program : Program) (catalog : Catalog) (decl : ClassDecl)
    : Silent (classify host program catalog decl) := by
  refine (silent_roleOf program catalog decl).attempt.bind fun given => ?_
  split <;> exact .pure _

end Classification

namespace Identification

theorem silent_recordFor (catalog : Catalog) (decl : ClassDecl) (kinds : List Kind)
    (method : Method)
    : Silent (recordFor host catalog decl kinds method) := by
  unfold recordFor
  split
  · exact .pure _
  · exact (silent_bodyOf method).bind fun _ => .pure _

theorem silent_recordsFor (catalog : Catalog) (decl : ClassDecl) (kinds : List Kind)
    (methods : List Method)
    : Silent (recordsFor host catalog decl kinds methods) := by
  induction methods with
  | nil => exact .pure _
  | cons method rest ih =>
      exact (silent_recordFor catalog decl kinds method).bind fun _ => ih.bind fun _ => .pure _

theorem silent_classRecords (catalog : Catalog) (decl : ClassDecl) (role : Role)
    : Silent (classRecords host catalog decl role) :=
  (silent_methodsOf decl).bind fun _ => (silent_recordsFor _ _ _ _).bind fun _ => .pure _

theorem silent_classifyAll (program : Program) (catalog : Catalog) (classes : List ClassDecl)
    : Silent (classifyAll host program catalog classes) := by
  induction classes with
  | nil => exact .pure _
  | cons decl rest ih =>
      exact (Classification.silent_classify program catalog decl).bind fun _ =>
        ih.bind fun _ => .pure _

theorem silent_collect (catalog : Catalog) (classes : List (ClassDecl × Role))
    (found : Identification)
    : Silent (collect host catalog found classes) := by
  induction classes generalizing found with
  | nil => exact .pure _
  | cons entry rest ih =>
      refine (silent_classRecords catalog entry.1 entry.2).attempt.bind fun given => ?_
      split
      · exact ih _
      · exact ih _

theorem silent_identify (program : Program) (catalog : Catalog) (skipTests : Bool)
    : Silent (identify host program catalog skipTests) :=
  (Silent.lift _).bind fun _ => (silent_classifyAll _ _ _).bind fun _ => silent_collect _ _ _

end Identification

-----------------------------------------------------------------------------------------
-- The call graph
-----------------------------------------------------------------------------------------

namespace CallGraph

theorem silent_calleesOf (program : Program) (synthetic : List SyntheticMethod) (signature : Text)
    : Silent (calleesOf host program synthetic signature) := by
  unfold calleesOf
  split
  · exact .pure _
  split
  · exact .pure _
  refine (silent_bodyOf _).bind fun body => ?_
  split
  · exact .pure _
  · exact .lift _

theorem silent_explore {limit : Option Json} {expand : Text → Activity (List Text)}
    (silent : ∀ caller, Silent (expand caller)) (fuel next : Nat) (graph : CallGraph)
    : Silent (explore limit expand fuel next graph) := by
  induction fuel generalizing next graph with
  | zero => exact .pure _
  | succ fuel ih =>
      unfold explore
      split
      · exact .pure _
      · exact (silent _).bind fun _ => (Silent.lift _).bind fun _ => ih _ _

theorem silent_build (program : Program) (synthetic : List SyntheticMethod) (limit : Option Json)
    (entries : List Text)
    : Silent (build host program synthetic limit entries) :=
  (silent_explore (silent_calleesOf program synthetic) _ _ _).span _ _

end CallGraph

namespace CallGraphSummary

theorem silent_chooseRoots (backend : Backend) (program : Program) (records : List Record)
    : Silent (chooseRoots backend program records) := by
  have asked : Silent (backend.hasMethod program EntryMethod.signature) := by
    cases backend with
    | hierarchy synthetic limit => exact .pure _
    | external hasMethod build => exact .lift _
  refine asked.bind fun known => ?_
  split
  · exact .pure _
  · split <;> exact .pure _

theorem silent_buildFrom (backend : Backend) (program : Program) (strategy : Strategy)
    (entries : List Text)
    : Silent (buildFrom backend host program strategy entries) := by
  have built : Silent (backend.build host program entries) := by
    cases backend with
    | hierarchy synthetic limit => exact CallGraph.silent_build _ _ _ _
    | external hasMethod build => exact .lift _
  unfold buildFrom
  split
  · exact .pure _
  · exact (built.map some).span _ _

theorem silent_build (backend : Backend) (program : Program) (records : List Record)
    : Silent (build backend host program records) := by
  refine (silent_chooseRoots backend program records).attempt.bind fun chosen => ?_
  split
  · exact .pure _
  refine (silent_buildFrom backend program _ _).attempt.bind fun built => ?_
  split <;> exact .pure _

end CallGraphSummary

-----------------------------------------------------------------------------------------
-- Scanning and sweeping
-----------------------------------------------------------------------------------------

namespace Scan

theorem silent_runSolver (method : Method) (cfg : Cfg) : Silent (runSolver host method cfg) := by
  unfold runSolver
  split
  · exact .pure _
  · exact (silent_solve _).bind fun _ => .pure _

theorem silent_scan (options : ScanOptions) (record : Record)
    : Silent (scan host options record) := by
  unfold scan
  split
  · exact .pure _
  refine (silent_bodyOf _).bind fun body => ?_
  split
  · exact .pure _
  split
  · exact .pure _
  · exact (silent_runSolver _ _).bind fun _ => .pure _

end Scan

namespace Analysis

theorem silent_scanTask (options : ScanOptions) (record : Record)
    : Silent (scanTask host options record) := by
  refine silent_shouldStop.bind fun stop => ?_
  split
  · exact .pure _
  split
  · exact .pure _
  refine (Scan.silent_scan options record).attempt.bind fun given => ?_
  split <;> exact .pure _

theorem silent_scanInOrder (options : ScanOptions) (records : List Record)
    : Silent (scanInOrder host options records) := by
  induction records with
  | nil => exact .pure _
  | cons record rest ih =>
      refine (silent_scanTask options record).bind fun given => ?_
      split
      · exact .pure _
      · exact ih.bind fun _ => .pure _

theorem silent_runTasks (options : ScanOptions) (records : List Record) (order : List Nat)
    : Silent (runTasks host options records order) := by
  induction order with
  | nil => exact .pure _
  | cons place rest ih =>
      unfold runTasks
      split
      · exact ih
      · exact (silent_scanTask options _).bind fun _ => ih.bind fun _ => .pure _

theorem silent_scanAll (options : ScanOptions) (workers : Nat) (schedule : Nat → List Nat)
    (records : List Record)
    : Silent (scanAll host options workers schedule records) := by
  unfold scanAll
  split
  · exact silent_scanInOrder options records
  · exact (silent_runTasks options records _).bind fun _ => .pure _

end Analysis

namespace Sweep

theorem silent_sweepMethod (path : Text) (decl : ClassDecl) (sweep : Sweep) (method : Method)
    : Silent (sweepMethod host path decl sweep method) := by
  unfold sweepMethod
  split
  · exact .pure _
  refine (silent_bodyOf method).bind fun body => ?_
  split
  · exact .pure _
  split
  · exact .pure _
  · exact (Scan.silent_runSolver method _).bind fun _ => .pure _

theorem silent_sweepMethods (path : Text) (decl : ClassDecl) (methods : List Method)
    (sweep : Sweep)
    : Silent (sweepMethods host path decl sweep methods) := by
  induction methods generalizing sweep with
  | nil => exact .pure _
  | cons method rest ih => exact (silent_sweepMethod path decl sweep method).bind fun _ => ih _

theorem silent_sweepClasses (path : Text) (classes : List ClassDecl) (sweep : Sweep)
    : Silent (sweepClasses host path sweep classes) := by
  induction classes generalizing sweep with
  | nil => exact .pure _
  | cons decl rest ih =>
      refine silent_shouldStop.bind fun stop => ?_
      split
      · exact .pure _
      · have swept : Silent (sweepClass host path sweep decl) :=
          (silent_methodsOf decl).bind fun _ => silent_sweepMethods _ _ _ _
        exact swept.bind fun _ => ih _

theorem silent_sweepFiles (skipTests : Bool) (files : List SourceFile) (sweep : Sweep)
    : Silent (sweepFiles host skipTests sweep files) := by
  induction files generalizing sweep with
  | nil => exact .pure _
  | cons file rest ih =>
      unfold sweepFiles
      split
      · exact ih _
      refine (silent_sweepClasses file.path file.classes sweep).bind fun swept => ?_
      split
      · exact .pure _
      · exact ih swept

theorem silent_run (program : Program) (skipTests : Bool)
    : Silent (run host program skipTests) :=
  silent_sweepFiles skipTests program.files _

end Sweep

end ArkLifecycle
