import ArkLifecycle.Proofs.Sweep.Denials

/-! For which methods the solver is called.

A scan and a sweep call the solver at the first statement of the first block. That is the first
statement of the whole body, unless the first block is empty: then the solver is not called at all,
whatever the other blocks hold.
-/

namespace ArkLifecycle

open Activity

-----------------------------------------------------------------------------------------
-- Where a body begins
-----------------------------------------------------------------------------------------

/-- The first block of the body is not empty, or else all of its blocks are. -/
def Cfg.Begins (cfg : Cfg) : Prop :=
  ∀ block ∈ cfg.blocks.head?, block.stmts = [] → cfg.stmts = []

/-- The entry of a body is its first statement if the body begins; otherwise there is none. -/
theorem Cfg.entryStmt?_eq_or (cfg : Cfg)
    : cfg.Begins ∧ cfg.entryStmt? = cfg.stmts.head?
      ∨ ¬ cfg.Begins ∧ cfg.entryStmt? = none ∧ cfg.stmts.head?.isSome := by
  obtain ⟨blocks⟩ := cfg
  cases blocks with
  | nil => exact .inl ⟨by simp [Begins], rfl⟩
  | cons block rest =>
      have entry : (Cfg.mk (block :: rest)).entryStmt? = block.stmts.head? := rfl
      have all : (Cfg.mk (block :: rest)).stmts = block.stmts ++ (Cfg.mk rest).stmts := rfl
      cases first : block.stmts with
      | cons stmt more => exact .inl ⟨by simp [Begins, first], by simp [entry, all, first]⟩
      | nil =>
          cases later : (Cfg.mk rest).stmts with
          | nil =>
              exact .inl ⟨by simp [Begins, all, first, later], by simp [entry, all, first, later]⟩
          | cons stmt more =>
              exact .inr ⟨by simp [Begins, all, first, later], by simp [entry, first],
                by simp [all, first, later]⟩

theorem Cfg.entryStmt?_eq_iff (cfg : Cfg) : cfg.entryStmt? = cfg.stmts.head? ↔ cfg.Begins := by
  rcases cfg.entryStmt?_eq_or with ⟨begins, same⟩ | ⟨late, none, some⟩
  · exact iff_of_true same begins
  · refine iff_of_false (fun same => ?_) late
    rw [← same, none] at some
    cases some

namespace Method

/-- The body of the method, if it has one, begins. -/
def Begins (method : Method) : Prop :=
  ∀ cfg ∈ method.cfg, cfg.Begins

/-- (callAt entry method) calls the solver at a statement of the body of a method, if there is one.
-/
def callAt (entry : Cfg → Option Stmt) (method : Method) : List SolverCall :=
  (method.cfg.bind fun cfg => (entry cfg).map fun stmt => ⟨method, cfg, stmt⟩).toList

/-- There is at most one such call. -/
theorem callAt_reverse (entry : Cfg → Option Stmt) (method : Method)
    : (callAt entry method).reverse = callAt entry method := by
  have single {α : Type} (value : Option α) : value.toList.reverse = value.toList := by
    cases value <;> rfl
  exact single _

/-- (calls method) is the call of the solver at the entry of a method. -/
abbrev calls (method : Method) : List SolverCall :=
  callAt Cfg.entryStmt? method

/-- (dueCalls method) is the call of the solver at the first statement of a method. -/
abbrev dueCalls (method : Method) : List SolverCall :=
  callAt (fun cfg => cfg.stmts.head?) method

theorem calls_of_bodiless {method : Method} (missing : method.cfg = none) : method.calls = [] := by
  simp [callAt, missing]

theorem calls_of_empty {method : Method} {cfg : Cfg} (body : method.cfg = some cfg)
    (empty : cfg.isEmpty = true)
    : method.calls = [] := by
  have none : cfg.blocks = [] := List.isEmpty_iff.mp empty
  simp [callAt, body, Cfg.entryStmt?, none]

/-- The solver is called where it should be if the body begins, and otherwise not at all. -/
theorem calls_eq_or (method : Method)
    : method.Begins ∧ method.calls = method.dueCalls
      ∨ ¬ method.Begins ∧ method.calls = [] ∧ method.dueCalls ≠ [] := by
  unfold Begins calls dueCalls callAt
  cases method.cfg with
  | none => exact .inl ⟨by simp, rfl⟩
  | some cfg =>
      rcases cfg.entryStmt?_eq_or with ⟨begins, same⟩ | ⟨late, none, some⟩
      · exact .inl ⟨by simpa using begins, by simp [same]⟩
      · obtain ⟨stmt, first⟩ := Option.isSome_iff_exists.mp some
        exact .inr ⟨by simpa using late, by simp [none], by simp [first]⟩

/-- The solver is called for all methods where it should be exactly if the bodies of all begin.
Witness: induction over the methods; a call that is missing is not made up for later.
-/
theorem flatMap_calls_eq_iff (methods : List Method)
    : methods.flatMap calls = methods.flatMap dueCalls ↔ ∀ method ∈ methods, method.Begins := by
  have fewer (methods : List Method)
      : (methods.flatMap calls).length ≤ (methods.flatMap dueCalls).length := by
    induction methods with
    | nil => exact Nat.le_refl 0
    | cons method rest ih =>
        rcases method.calls_eq_or with ⟨-, same⟩ | ⟨-, none, -⟩
        · simpa [same] using ih
        · simpa [none] using Nat.le_add_left_of_le ih
  induction methods with
  | nil => simp
  | cons method rest ih =>
      rw [List.flatMap_cons, List.flatMap_cons, List.forall_mem_cons]
      rcases method.calls_eq_or with ⟨begins, same⟩ | ⟨late, none, some⟩
      · simp [same, begins, ih]
      · refine iff_of_false (fun same => ?_) (fun both => late both.1)
        have length := congrArg List.length same
        rw [none, List.nil_append, List.length_append] at length
        have short := fewer rest
        have missing := List.length_pos_iff.mpr some
        omega

end Method

-----------------------------------------------------------------------------------------
-- Calls of a task
-----------------------------------------------------------------------------------------

namespace Activity

variable {α β : Type}

/-- If the task gives a value, it has called the solver as told of that value, in this order. -/
def Solves (task : Activity α) (told : α → List SolverCall → Prop) : Prop :=
  ∀ ⦃before value after⦄,
    outcome task before = (.ok value, after)
    → ∃ calls, after.solved = calls.reverse ++ before.solved ∧ told value calls

theorem Solves.pure {told : α → List SolverCall → Prop} {value : α} (known : told value [])
    : Solves (Pure.pure value) told := by
  rintro before _ _ ⟨⟩
  exact ⟨[], rfl, known⟩

/-- The calls of one task come before those of the next. -/
theorem Solves.bind {task : Activity α} {next : α → Activity β}
    {first : α → List SolverCall → Prop} {told : β → List SolverCall → Prop}
    (begun : Solves task first)
    (rest
      : ∀ value calls,
          first value calls → Solves (next value) fun result more => told result (calls ++ more))
    : Solves (task >>= next) told := by
  intro before value after done
  obtain ⟨given, middle, started, ended⟩ := outcome_bind_eq_ok done
  obtain ⟨calls, earlier, known⟩ := begun started
  obtain ⟨more, later, knownToo⟩ := rest given calls known ended
  refine ⟨calls ++ more, ?_, knownToo⟩
  rw [later, earlier, List.reverse_append, List.append_assoc]

/-- A question to the program is no call of the solver. -/
theorem Solves.asked {host : Host} {query : Query} {value : α}
    : Solves (do ask host query; return value)
        fun given calls => given = value ∧ calls = [] := by
  intro before given after done
  rw [outcome_asked] at done
  cases denied : host.deny before.queries query <;> rw [denied] at done <;> cases done
  exact ⟨[], rfl, rfl, rfl⟩

theorem Solves.shouldStop {host : Host}
    : Solves (shouldStop host)
        fun stop calls => (host.Patient → stop = false) ∧ calls = [] := by
  rintro before _ _ ⟨⟩
  exact ⟨[], rfl, fun patient => patient _, rfl⟩

end Activity

-----------------------------------------------------------------------------------------
-- Scans
-----------------------------------------------------------------------------------------

namespace Scan

theorem runSolver_solves (host : Host) {method : Method} {cfg : Cfg}
    (body : method.cfg = some cfg)
    : Solves (runSolver host method cfg) fun _ calls => calls = method.calls := by
  unfold runSolver Method.calls Method.callAt
  rw [body]
  cases entry : cfg.entryStmt? with
  | none => exact .pure (by simp [entry])
  | some stmt =>
      rintro before _ _ ⟨⟩
      exact ⟨[⟨method, cfg, stmt⟩], rfl, by simp [entry]⟩

/-- A scan calls the solver at the entry of the body. -/
theorem scan_solves (host : Host) (options : ScanOptions) {record : Record} {method : Method}
    (given : record.method = some method)
    : Solves (scan host options record) fun _ calls => calls = method.calls := by
  unfold scan
  rw [given]
  refine Solves.asked.bind ?_
  rintro _ _ ⟨rfl, rfl⟩
  cases body : method.cfg with
  | none => exact .pure (Method.calls_of_bodiless body).symm
  | some cfg =>
      dsimp only
      cases empty : cfg.isEmpty with
      | true => exact .pure (Method.calls_of_empty body empty).symm
      | false =>
          refine (runSolver_solves host body).bind ?_
          rintro message _ rfl
          exact .pure (List.append_nil _)

/-- A body that is told is scanned, if there is one. -/
theorem scan_ends {host : Host} {session : Session} {record : Record} {method : Method}
    (given : record.method = some method)
    (told : host.deny session.queries (.body method) = none) (options : ScanOptions)
    : ∃ result after, outcome (scan host options record) session = (.ok result, after) := by
  have answered
      : outcome (bodyOf host method) session
        = (.ok method.cfg, { session with queries := .body method :: session.queries }) := by
    rw [bodyOf, outcome_asked, told]
    rfl
  simp only [scan, given, outcome_bind_ok answered]
  cases method.cfg with
  | none => exact ⟨_, _, rfl⟩
  | some cfg =>
      dsimp only
      split
      · exact ⟨_, _, rfl⟩
      · obtain ⟨message, after, done, -⟩ := runSolver_quiet host method cfg _
        exact ⟨_, after, outcome_bind_ok done⟩

end Scan

-----------------------------------------------------------------------------------------
-- Sweeps
-----------------------------------------------------------------------------------------

namespace Sweep

/-- (sweptMethods skipTests files) are the methods that a sweep looks into. -/
def sweptMethods (skipTests : Bool) (files : List SourceFile) : List Method :=
  (sites skipTests files).flatMap fun site => site.2.methods.filter isSweepable

/-- The part of a sweep calls the solver for the methods, and does not stop it. -/
def Calls (methods : List Method) (task : Sweep → Activity Sweep) : Prop :=
  ∀ sweep,
    Solves (task sweep) fun next calls =>
      calls = methods.flatMap Method.calls ∧ next.cancelled = sweep.cancelled

/-- The part of a sweep calls the solver for the methods unless it is stopped, which does not happen
to a patient host.
-/
def Covers (host : Host) (methods : List Method) (task : Sweep → Activity Sweep) : Prop :=
  ∀ sweep,
    sweep.cancelled = false
    → Solves (task sweep) fun next calls =>
        (next.cancelled = false → calls = methods.flatMap Method.calls)
        ∧ (host.Patient → next.cancelled = false)

variable {host : Host}

/-- A method is skipped, or the solver is called at its entry. -/
theorem sweepMethod_calls (host : Host) (path : Text) (decl : ClassDecl) (method : Method)
    : Calls ([method].filter isSweepable) (sweepMethod host path decl · method) := by
  intro sweep
  unfold sweepMethod
  cases swept : isSweepable method with
  | false => exact .pure (by simp [swept])
  | true =>
      have alone : ([method].filter isSweepable).flatMap Method.calls = method.calls := by
        simp [swept]
      rw [alone]
      refine Solves.asked.bind ?_
      rintro _ _ ⟨rfl, rfl⟩
      cases body : method.cfg with
      | none => exact .pure ⟨(Method.calls_of_bodiless body).symm, rfl⟩
      | some cfg =>
          dsimp only
          cases empty : cfg.isEmpty with
          | true => exact .pure ⟨(Method.calls_of_empty body empty).symm, rfl⟩
          | false =>
              refine (Scan.runSolver_solves host body).bind ?_
              rintro message _ rfl
              exact .pure ⟨List.append_nil _, rfl⟩

/-- Methods are looked into one after the other. Witness: induction over the methods. -/
theorem sweepMethods_calls (host : Host) (path : Text) (decl : ClassDecl) (methods : List Method)
    : Calls (methods.filter isSweepable) (sweepMethods host path decl · methods) := by
  induction methods with
  | nil => exact fun sweep => .pure ⟨rfl, rfl⟩
  | cons method rest ih =>
      intro sweep
      refine (sweepMethod_calls host path decl method sweep).bind ?_
      rintro middle _ ⟨rfl, kept⟩ before value after done
      obtain ⟨calls, solved, rfl, same⟩ := ih middle done
      refine ⟨_, solved, ?_, same.trans kept⟩
      rw [← List.flatMap_append, ← List.filter_append, List.singleton_append]

theorem sweepClass_calls (host : Host) (path : Text) (decl : ClassDecl)
    : Calls (decl.methods.filter isSweepable) (sweepClass host path · decl) := by
  intro sweep
  refine Solves.asked.bind ?_
  rintro _ _ ⟨rfl, rfl⟩
  exact sweepMethods_calls host path decl decl.methods _

/-- Classes are looked into one after the other, until the sweep is stopped. Witness: induction over
the classes.
-/
theorem sweepClasses_covers (host : Host) (path : Text) (decls : List ClassDecl)
    : Covers host (decls.flatMap fun decl => decl.methods.filter isSweepable)
        (sweepClasses host path · decls) := by
  induction decls with
  | nil => exact fun sweep going => .pure ⟨fun _ => rfl, fun _ => going⟩
  | cons decl rest ih =>
      intro sweep going
      refine Solves.shouldStop.bind ?_
      rintro stop _ ⟨patient, rfl⟩
      cases stop with
      | true => exact .pure ⟨by simp, fun given => absurd (patient given) (by simp)⟩
      | false =>
          refine (sweepClass_calls host path decl sweep).bind ?_
          rintro middle _ ⟨rfl, kept⟩ before value after done
          obtain ⟨calls, solved, whole, through⟩ := ih middle (kept.trans going) done
          refine ⟨_, solved, fun going => ?_, through⟩
          rw [whole going, List.nil_append, List.flatMap_cons, List.flatMap_append]

/-- Files are looked into one after the other, unless they are skipped, until the sweep is stopped.
Witness: induction over the files.
-/
theorem sweepFiles_covers (host : Host) (skipTests : Bool) (files : List SourceFile)
    : Covers host (sweptMethods skipTests files) (sweepFiles host skipTests · files) := by
  induction files with
  | nil => exact fun sweep going => .pure ⟨fun _ => rfl, fun _ => going⟩
  | cons file rest ih =>
      intro sweep going
      unfold sweepFiles sweptMethods sites
      cases skipped : skipTests && isTestPath file.path with
      | true => exact ih { sweep with skippedFiles := sweep.skippedFiles + 1 } going
      | false =>
          refine (sweepClasses_covers host file.path file.classes sweep going).bind ?_
          rintro middle calls ⟨whole, patient⟩
          cases stopped : middle.cancelled with
          | true =>
              refine .pure ⟨fun going => ?_, fun given => stopped ▸ patient given⟩
              cases stopped.symm.trans going
          | false =>
              intro before value after done
              obtain ⟨later, solved, all, through⟩ := ih middle stopped done
              refine ⟨later, solved, fun going => ?_, through⟩
              rw [whole stopped, all going, ← List.flatMap_append]
              simp [sweptMethods, List.flatMap_map]

/-- A sweep that is not stopped calls the solver for all methods that it looks into. -/
theorem run_solves (host : Host) (program : Program) (skipTests : Bool)
    : Solves (Sweep.run host program skipTests) fun sweep calls =>
        (sweep.cancelled = false
          → calls = (sweptMethods skipTests program.files).flatMap Method.calls)
        ∧ (host.Patient → sweep.cancelled = false) :=
  sweepFiles_covers host skipTests program.files _ rfl

/-- The statement at which the solver begins is the first one of a body exactly if the body begins
in its first block. A callback whose body is told is scanned, and a sweep for an obliging host ends.
The scan calls the solver at the first statement of the callback, and a sweep that is not stopped
does so for all methods that it looks into, in their order and nothing else, exactly if their bodies
begin.
-/
theorem solver_called_iff (host : Host) (session : Session)
    : (∀ cfg : Cfg, cfg.entryStmt? = cfg.stmts.head? ↔ cfg.Begins)
      ∧ (∀ options (record : Record) method,
          record.method = some method
          → host.deny session.queries (.body method) = none
          → ∃ result after,
              outcome (Scan.scan host options record) session = (.ok result, after)
              ∧ (after.solved = method.dueCalls ++ session.solved ↔ method.Begins))
      ∧ ∀ program skipTests,
          host.Obliging
          → ∃ sweep after,
              outcome (Sweep.run host program skipTests) session = (.ok sweep, after)
              ∧ (host.Patient → sweep.cancelled = false)
              ∧ (sweep.cancelled = false
                → (after.solved
                    = ((sweptMethods skipTests program.files).flatMap Method.dueCalls).reverse
                      ++ session.solved
                  ↔ ∀ method ∈ sweptMethods skipTests program.files, method.Begins)) := by
  refine ⟨Cfg.entryStmt?_eq_iff, ?_, ?_⟩
  · intro options record method given told
    obtain ⟨result, after, done⟩ := Scan.scan_ends given told options
    obtain ⟨_, solved, rfl⟩ := Scan.scan_solves host options given done
    refine ⟨result, after, done, ?_⟩
    rw [solved, Method.callAt_reverse, List.append_left_inj]
    simpa using Method.flatMap_calls_eq_iff [method]
  · intro program skipTests obliging
    obtain ⟨sweep, after, done⟩ := run_obliged obliging program skipTests session
    obtain ⟨calls, solved, whole, patient⟩ := run_solves host program skipTests done
    refine ⟨sweep, after, done, patient, fun going => ?_⟩
    rw [solved, whole going, List.append_left_inj, List.reverse_inj]
    exact Method.flatMap_calls_eq_iff _

/-- (callback cfg) is a callback with the body. -/
def callback (cfg : Cfg) : Method where
  name := "onCreate"
  className := "A"
  signature := Method.defaultSignature "a.ets" "A" "onCreate"
  filePath := "a.ets"
  line := 1
  column := 0
  cfg := some cfg

/-- (callbackRecord cfg) is the record of this callback. -/
def callbackRecord (cfg : Cfg) : Record where
  methodName := "onCreate"
  kind := .ability
  className := "A"
  filePath := "a.ets"
  line := 1
  hasImplementation := true
  signature := Method.defaultSignature "a.ets" "A" "onCreate"
  method := some (callback cfg)

/-- (callbackFile cfg) is a file with this callback alone. -/
def callbackFile (cfg : Cfg) : SourceFile where
  path := "a.ets"
  classes := [{
    name := "A"
    filePath := "a.ets"
    superclass := "UIAbility"
    decorators := []
    methods := [callback cfg] }]

/-- (assignment) uses an undefined value. -/
def assignment : Stmt := ⟨"x = undefined", 2, 0, []⟩

/-- (earlyBody) has a statement in its first block only, and (lateBody) in its second block only. -/
def earlyBody : Cfg := ⟨[⟨0, [assignment]⟩, ⟨1, []⟩]⟩

@[inherit_doc earlyBody]
def lateBody : Cfg := ⟨[⟨0, []⟩, ⟨1, [assignment]⟩]⟩

/-- Where only later blocks are empty, the solver is called. -/
theorem solver_called_early
    : (∃ result after,
        outcome (Scan.scan .willing ⟨false, [], true⟩ (callbackRecord earlyBody)) .fresh
          = (.ok result, after)
        ∧ after.solved = [⟨callback earlyBody, earlyBody, assignment⟩])
      ∧ ∃ sweep after,
        outcome (Sweep.run .willing (.ofFiles [callbackFile earlyBody]) false) .fresh
          = (.ok sweep, after)
        ∧ after.solved = [⟨callback earlyBody, earlyBody, assignment⟩] := by
  obtain ⟨-, scans, sweeps⟩ := solver_called_iff .willing .fresh
  have begins : (callback earlyBody).Begins := by
    rintro _ ⟨⟩ _ ⟨⟩ none
    cases none
  constructor
  · obtain ⟨result, after, done, called⟩ :=
      scans ⟨false, [], true⟩ (callbackRecord earlyBody) _ rfl rfl
    exact ⟨result, after, done, called.mpr begins⟩
  · obtain ⟨sweep, after, done, patient, called⟩ :=
      sweeps (.ofFiles [callbackFile earlyBody]) false fun _ _ => rfl
    refine ⟨sweep, after, done, (called (patient fun _ => rfl)).mpr ?_⟩
    intro method member
    cases List.mem_singleton.mp member
    exact begins

/-- Where the first block is empty, neither a scan nor a sweep calls the solver, although there is a
statement after it.
-/
theorem solver_not_called_late
    : lateBody.stmts.head? = some assignment
      ∧ lateBody.entryStmt? = none
      ∧ (outcome (Scan.scan .willing ⟨false, [], true⟩ (callbackRecord lateBody)) .fresh).2.solved
        = []
      ∧ (outcome (Sweep.run .willing (.ofFiles [callbackFile lateBody]) false) .fresh).2.solved
        = [] :=
  ⟨rfl, rfl, rfl, rfl⟩

end Sweep

end ArkLifecycle
