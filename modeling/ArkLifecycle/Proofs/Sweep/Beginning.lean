import ArkLifecycle.Proofs.Sweep.Denials

/-! What a sweep has found when it is told to stop.

A sweep looks once before each class. Told to stop, it has found and counted what a sweep of the
classes before that look finds and counts, and has called the solver for nothing else. Only the
calls of the solver are remembered from one class to the next.
-/

namespace ArkLifecycle

open Activity

/-- (Host.patient host) is the same host, except that it never says to stop. -/
def Host.patient (host : Host) : Host :=
  { host with stop := fun _ => false }

/-- From some look on, the host says `count` times to go on and then to stop, unless it is asked
only `total` times.
-/
structure Host.StopsAfter (host : Host) (looks count total : Nat) : Prop where
  within : count ≤ total
  going : ∀ index < count, host.stop (looks + index) = false
  stopped : count < total → host.stop (looks + count) = true

theorem Host.patient_stopsAfter (host : Host) (looks total : Nat)
    : host.patient.StopsAfter looks total total where
  within := Nat.le_refl total
  going _ _ := rfl
  stopped short := absurd short (Nat.lt_irrefl total)

/-- Once some of the looks are over, fewer are left. -/
theorem Host.StopsAfter.later {host : Host} {looks count total : Nat}
    (stops : host.StopsAfter looks count total) {passed : Nat} (begun : passed ≤ count)
    : host.StopsAfter (looks + passed) (count - passed) (total - passed) where
  within := Nat.sub_le_sub_right stops.within passed
  going index before := by
    have going := stops.going (passed + index) (by omega)
    rwa [← Nat.add_assoc] at going
  stopped short := by
    have stopped := stops.stopped (by omega)
    have here : looks + passed + (count - passed) = looks + count := by omega
    rwa [here]

/-- Of fewer looks the host says to stop at the same one, if it comes to that. -/
theorem Host.StopsAfter.sooner {host : Host} {looks count total : Nat}
    (stops : host.StopsAfter looks count total) {fewer : Nat} (within : fewer ≤ total)
    : host.StopsAfter looks (min count fewer) fewer where
  within := Nat.min_le_right _ _
  going index before := stops.going index (by omega)
  stopped short := by
    have same : min count fewer = count := by omega
    rw [same]
    exact stops.stopped (by omega)

namespace Sweep

-----------------------------------------------------------------------------------------
-- Sweeps in step
-----------------------------------------------------------------------------------------

/-- Two sweeps found the same issues, and counted the same classes, methods and failures of the
solver.
-/
structure SameCounts (left right : Sweep) : Prop where
  issues : left.issues = right.issues
  totalClasses : left.totalClasses = right.totalClasses
  totalMethods : left.totalMethods = right.totalMethods
  analyzedMethods : left.analyzedMethods = right.analyzedMethods
  solverErrors : left.solverErrors = right.solverErrors

theorem SameCounts.symm {left right : Sweep} (same : SameCounts left right)
    : SameCounts right left :=
  ⟨same.issues.symm, same.totalClasses.symm, same.totalMethods.symm, same.analyzedMethods.symm,
    same.solverErrors.symm⟩

theorem SameCounts.trans {first second third : Sweep} (left : SameCounts first second)
    (right : SameCounts second third)
    : SameCounts first third :=
  ⟨left.issues.trans right.issues, left.totalClasses.trans right.totalClasses,
    left.totalMethods.trans right.totalMethods,
    left.analyzedMethods.trans right.analyzedMethods,
    left.solverErrors.trans right.solverErrors⟩

/-- Two sweeps, each in its session, have counted the same and called the solver for the same. -/
structure InStep (left right : Sweep × Session) : Prop extends SameCounts left.1 right.1 where
  solved : left.2.solved = right.2.solved

/-- The task takes two sweeps that are in step to sweeps that are in step again. It does not look
up whether to stop, nor does it stop a sweep.
-/
def KeepsStep (task : Sweep → Activity Sweep) : Prop :=
  ∀ left right,
    InStep left right
    → ∃ next other,
        outcome (task left.1) left.2 = (.ok next.1, next.2)
        ∧ outcome (task right.1) right.2 = (.ok other.1, other.2)
        ∧ InStep next other
        ∧ next.1.cancelled = left.1.cancelled
        ∧ next.2.looks = left.2.looks

theorem KeepsStep.nil : KeepsStep pure :=
  fun left right step => ⟨left, right, rfl, rfl, step, rfl, rfl⟩

theorem KeepsStep.andThen {task more : Sweep → Activity Sweep} (first : KeepsStep task)
    (second : KeepsStep more)
    : KeepsStep (fun sweep => task sweep >>= more) := by
  intro left right step
  obtain ⟨middle, between, done, also, step, kept, looks⟩ := first left right step
  obtain ⟨next, other, ended, alsoEnded, step, keptOn, looksOn⟩ := second middle between step
  exact ⟨next, other, (outcome_bind_ok done).trans ended, (outcome_bind_ok also).trans alsoEnded,
    step, keptOn.trans kept, looksOn.trans looks⟩

/-- A part before which something is counted. -/
theorem KeepsStep.after {task : Sweep → Activity Sweep} (given : KeepsStep task)
    (count : Sweep → Sweep)
    (same : ∀ left right, SameCounts left right → SameCounts (count left) (count right))
    (kept : ∀ sweep, (count sweep).cancelled = sweep.cancelled)
    : KeepsStep (fun sweep => task (count sweep)) := by
  intro left right step
  obtain ⟨next, other, done, also, step, keptOn, looks⟩ :=
    given (count left.1, left.2) (count right.1, right.2)
      ⟨same _ _ step.toSameCounts, step.solved⟩
  exact ⟨next, other, done, also, step, keptOn.trans (kept left.1), looks⟩

/-- A part that begins with a question that is never denied. -/
theorem KeepsStep.asking {α : Type} {host : Host} (obliging : host.Obliging) (query : Query)
    {value : α} {task : Sweep → α → Activity Sweep} (given : KeepsStep (task · value))
    : KeepsStep (fun sweep => (do ask host query; return value) >>= task sweep) := by
  intro left right step
  let asked (session : Session) : Session :=
    { session with queries := query :: session.queries }
  have told (session : Session)
      : outcome (do ask host query; return value) session = (.ok value, asked session) := by
    rw [outcome_asked, obliging]
    rfl
  rw [outcome_bind_ok (told left.2), outcome_bind_ok (told right.2)]
  exact given (left.1, asked left.2) (right.1, asked right.2) ⟨step.toSameCounts, step.solved⟩

variable {host : Host}

/-- A body is examined in step. Witness: the solver decides by the calls before, which are the same.
-/
theorem sweepBody_keepsStep (path : Text) (decl : ClassDecl) (method : Method) (cfg : Cfg)
    : KeepsStep (fun sweep =>
        if cfg.isEmpty then
          return sweep
        else do
          let failed ← Scan.runSolver host method cfg
          return { sweep with
            solverErrors := sweep.solverErrors + (if failed.isSome then 1 else 0)
            issues := sweep.issues ++ cfg.stmts.flatMap (issuesOf path decl method) }) := by
  have issues {left right : Sweep} (same : SameCounts left right) (found : List ProjectIssue)
      : left.issues ++ found = right.issues ++ found :=
    congrArg (· ++ found) same.issues
  cases cfg.isEmpty with
  | true => exact .nil
  | false =>
      intro left right step
      have solved := step.solved
      unfold Scan.runSolver
      cases cfg.entryStmt? with
      | none =>
          exact ⟨(_, _), (_, _), rfl, rfl, ⟨⟨issues step.toSameCounts _, step.totalClasses,
            step.totalMethods, step.analyzedMethods, step.solverErrors⟩, solved⟩, rfl, rfl⟩
      | some entry =>
          refine ⟨(_, _), (_, _), rfl, rfl, ⟨⟨issues step.toSameCounts _, step.totalClasses,
            step.totalMethods, step.analyzedMethods, ?_⟩, congrArg (_ :: ·) solved⟩, rfl, rfl⟩
          dsimp only
          rw [solved, step.solverErrors]

theorem sweepMethod_keepsStep (obliging : host.Obliging) (path : Text) (decl : ClassDecl)
    (method : Method)
    : KeepsStep (sweepMethod host path decl · method) := by
  let counted (sweep : Sweep) : Sweep :=
    { sweep with analyzedMethods := sweep.analyzedMethods + 1 }
  have same (left right : Sweep) (same : SameCounts left right)
      : SameCounts (counted left) (counted right) :=
    ⟨same.issues, same.totalClasses, same.totalMethods, congrArg (· + 1) same.analyzedMethods,
      same.solverErrors⟩
  unfold sweepMethod
  cases isSweepable method with
  | false => exact .nil
  | true =>
      refine KeepsStep.asking obliging (.body method) ?_
      cases method.cfg with
      | none => exact KeepsStep.nil.after counted same fun _ => rfl
      | some cfg => exact (sweepBody_keepsStep path decl method cfg).after counted same fun _ => rfl

theorem sweepMethods_keepsStep (obliging : host.Obliging) (path : Text) (decl : ClassDecl)
    (methods : List Method)
    : KeepsStep (sweepMethods host path decl · methods) := by
  induction methods with
  | nil => exact .nil
  | cons method rest ih => exact (sweepMethod_keepsStep obliging path decl method).andThen ih

theorem sweepClass_keepsStep (obliging : host.Obliging) (path : Text) (decl : ClassDecl)
    : KeepsStep (sweepClass host path · decl) := by
  refine KeepsStep.asking obliging (.methods decl) ?_
  refine (sweepMethods_keepsStep obliging path decl decl.methods).after _ ?_ fun _ => rfl
  intro left right same
  exact ⟨same.issues, congrArg (· + 1) same.totalClasses,
    congrArg (· + decl.methods.length) same.totalMethods, same.analyzedMethods,
    same.solverErrors⟩

/-- Examining a class does not depend on when to stop. -/
theorem sweepClass_stop (stop : Nat → Bool) (path : Text) (sweep : Sweep) (decl : ClassDecl)
    : sweepClass { host with stop } path sweep decl = sweepClass host path sweep decl := by
  have methods (sweep : Sweep) (given : List Method)
      : sweepMethods { host with stop } path decl sweep given
        = sweepMethods host path decl sweep given := by
    induction given generalizing sweep with
    | nil => rfl
    | cons method rest ih =>
        simp only [sweepMethods, ih]
        rfl
  simp only [sweepClass, methods]
  rfl

-----------------------------------------------------------------------------------------
-- One class after the other
-----------------------------------------------------------------------------------------

/-- (through host sweep sites) examines the classes one after the other, without looking up whether
to stop.
-/
def through (host : Host) : Sweep → List (Text × ClassDecl) → Activity Sweep
  | sweep, [] => return sweep
  | sweep, site :: rest => do
      through host (← sweepClass host site.1 sweep site.2) rest

theorem through_append (sweep : Sweep) (sites more : List (Text × ClassDecl))
    : through host sweep (sites ++ more)
      = through host sweep sites >>= fun sweep => through host sweep more := by
  induction sites generalizing sweep with
  | nil => simp [through]
  | cons site rest ih => simp only [List.cons_append, through, ih, bind_assoc]

theorem through_stop (stop : Nat → Bool) (sweep : Sweep) (sites : List (Text × ClassDecl))
    : through { host with stop } sweep sites = through host sweep sites := by
  induction sites generalizing sweep with
  | nil => rfl
  | cons site rest ih => simp only [through, sweepClass_stop, ih]

/-- The classes of a file are examined up to the look that says to stop.
Witness: induction over the classes; the first look passes or is the one that says to stop.
-/
theorem sweepClasses_through (obliging : host.Obliging) (path : Text) (decls : List ClassDecl)
    {left right : Sweep × Session} (step : InStep left right)
    (going : left.1.cancelled = false) {count : Nat}
    (stops : host.StopsAfter left.2.looks count decls.length)
    : ∃ next other,
        outcome (sweepClasses host path left.1 decls) left.2 = (.ok next.1, next.2)
        ∧ outcome (through host right.1 ((decls.map (path, ·)).take count)) right.2
          = (.ok other.1, other.2)
        ∧ InStep next other
        ∧ next.1.cancelled = decide (count < decls.length)
        ∧ (count = decls.length → next.2.looks = left.2.looks + decls.length) := by
  induction decls generalizing left right count with
  | nil =>
      have none : count = 0 := Nat.le_zero.mp stops.within
      subst none
      exact ⟨left, right, rfl, rfl, step, going, fun _ => rfl⟩
  | cons decl rest ih =>
      have looked := outcome_shouldStop host left.2
      cases count with
      | zero =>
          have stopped : host.stop left.2.looks = true := stops.stopped (Nat.succ_pos _)
          rw [stopped] at looked
          refine ⟨({ left.1 with cancelled := true }, { left.2 with looks := left.2.looks + 1 }),
            right, ?_, rfl, ⟨⟨step.issues, step.totalClasses, step.totalMethods,
              step.analyzedMethods, step.solverErrors⟩, step.solved⟩, ?_, ?_⟩
          · rw [sweepClasses, outcome_bind_ok looked]
            rfl
          · simp
          · simp
      | succ count =>
          have passing : host.stop left.2.looks = false := stops.going 0 (Nat.succ_pos _)
          rw [passing] at looked
          have later : host.StopsAfter (left.2.looks + 1) count rest.length :=
            stops.later (Nat.succ_le_succ (Nat.zero_le count))
          obtain ⟨middle, between, done, also, step, kept, looks⟩ :=
            sweepClass_keepsStep obliging path decl
              (left.1, { left.2 with looks := left.2.looks + 1 }) right
              ⟨step.toSameCounts, step.solved⟩
          have looks : middle.2.looks = left.2.looks + 1 := looks
          rw [← looks] at later
          obtain ⟨next, other, ended, alsoEnded, step, cancelled, looksOn⟩ :=
            ih step (kept.trans going) later
          refine ⟨next, other, ?_, ?_, step, ?_, ?_⟩
          · rw [sweepClasses, outcome_bind_ok looked]
            exact (outcome_bind_ok done).trans ended
          · exact (outcome_bind_ok also).trans alsoEnded
          · simp [cancelled]
          · intro all
            rw [looksOn (Nat.succ.inj all), looks, List.length_cons]
            omega

/-- The classes of files that are not skipped are examined up to the look that says to stop.
Witness: induction over the files; a file is left early exactly if the sweep is told to stop in it.
-/
theorem sweepFiles_through (obliging : host.Obliging) (skipTests : Bool)
    (files : List SourceFile) {left right : Sweep × Session} (step : InStep left right)
    (going : left.1.cancelled = false) {count : Nat}
    (stops : host.StopsAfter left.2.looks count (sites skipTests files).length)
    : ∃ next other,
        outcome (sweepFiles host skipTests left.1 files) left.2 = (.ok next.1, next.2)
        ∧ outcome (through host right.1 ((sites skipTests files).take count)) right.2
          = (.ok other.1, other.2)
        ∧ InStep next other
        ∧ next.1.cancelled = decide (count < (sites skipTests files).length) := by
  induction files generalizing left right count with
  | nil =>
      have none : count = 0 := Nat.le_zero.mp stops.within
      subst none
      exact ⟨left, right, rfl, rfl, step, going⟩
  | cons file rest ih =>
      unfold sweepFiles
      unfold sites at stops ⊢
      cases skipped : skipTests && isTestPath file.path with
      | true =>
          simp only [skipped, if_true] at stops ⊢
          have counted
              : InStep ({ left.1 with skippedFiles := left.1.skippedFiles + 1 }, left.2) right :=
            ⟨⟨step.issues, step.totalClasses, step.totalMethods, step.analyzedMethods,
              step.solverErrors⟩, step.solved⟩
          exact ih counted going stops
      | false =>
          simp only [skipped, Bool.false_eq_true, if_false, List.length_append,
            List.length_map] at stops ⊢
          obtain ⟨middle, between, done, also, step, cancelled, looks⟩ :=
            sweepClasses_through obliging file.path file.classes step going
              (stops.sooner (Nat.le_add_right _ _))
          rw [outcome_bind_ok done]
          by_cases inside : count < file.classes.length
          · have early : min count file.classes.length = count := by omega
            rw [early] at also cancelled
            rw [decide_eq_true inside] at cancelled
            simp only [cancelled, if_true]
            refine ⟨middle, between, rfl, ?_, step, ?_⟩
            · rw [List.take_append_of_le_length (by simpa using Nat.le_of_lt inside)]
              exact also
            · rw [cancelled, eq_comm, decide_eq_true_eq]
              omega
          · have whole : min count file.classes.length = file.classes.length := by omega
            rw [whole] at also cancelled looks
            simp only [Nat.lt_irrefl, decide_false] at cancelled
            simp only [cancelled, Bool.false_eq_true, if_false]
            have later := stops.later (Nat.le_of_not_lt inside)
            rw [← looks rfl, Nat.add_sub_cancel_left] at later
            obtain ⟨next, other, ended, alsoEnded, step, cancelled⟩ := ih step cancelled later
            refine ⟨next, other, ended, ?_, step, ?_⟩
            · rw [List.take_append, List.take_of_length_le (by simpa using inside),
                List.length_map, through_append]
              rw [List.take_of_length_le (by simp)] at also
              exact (outcome_bind_ok also).trans alsoEnded
            · rw [cancelled, decide_eq_decide]
              omega

-----------------------------------------------------------------------------------------
-- Whole sweeps
-----------------------------------------------------------------------------------------

/-- (only program sites) is the program with the given classes and no others, each in a file of its
own.
-/
def only (program : Program) (sites : List (Text × ClassDecl)) : Program :=
  { program with files := sites.map fun site => ⟨site.1, [site.2]⟩ }

theorem sites_only (program : Program) (given : List (Text × ClassDecl))
    : sites false (only program given).files = given := by
  induction given with
  | nil => rfl
  | cons site rest ih =>
      have step : sites false (only program (site :: rest)).files
          = site :: sites false (only program rest).files :=
        rfl
      rw [step, ih]

/-- A sweep that is told to stop has found and counted what a sweep of the classes before that does,
in any session in which the solver was called for the same before.
-/
theorem run_stopsAfter (obliging : host.Obliging) (program : Program) (skipTests : Bool)
    {before session : Session} (solved : before.solved = session.solved) {count : Nat}
    (stops : host.StopsAfter before.looks count (sites skipTests program.files).length)
    : ∃ sweep after reference later,
        outcome (Sweep.run host program skipTests) before = (.ok sweep, after)
        ∧ outcome
            (Sweep.run host.patient
              (only program ((sites skipTests program.files).take count)) false)
            session
          = (.ok reference, later)
        ∧ SameCounts sweep reference
        ∧ sweep.cancelled = decide (count < (sites skipTests program.files).length) := by
  let start (program : Program) : Sweep :=
    { issues := []
      totalFiles := program.files.length
      totalClasses := 0
      totalMethods := 0
      analyzedMethods := 0
      skippedFiles := 0
      solverErrors := 0
      cancelled := false }
  let few := only program ((sites skipTests program.files).take count)
  have begun (left right : Program) {first second : Session}
      (solved : first.solved = second.solved)
      : InStep (start left, first) (start right, second) :=
    ⟨⟨rfl, rfl, rfl, rfl, rfl⟩, solved⟩
  obtain ⟨stopped, alone, done, gone, step, cancelled⟩ :=
    sweepFiles_through obliging skipTests program.files (begun program few solved) rfl stops
  -- A sweep of these classes alone goes through all of them.
  have unstopped : host.patient.Obliging := obliging
  obtain ⟨patient, again, also, goneAgain, same, -⟩ :=
    sweepFiles_through unstopped false few.files (begun few few (rfl : session.solved = _)) rfl
      (host.patient_stopsAfter session.looks (sites false few.files).length)
  rw [List.take_length, sites_only, Host.patient, through_stop, gone] at goneAgain
  have agree : alone = again :=
    Prod.ext (Except.ok.inj (Prod.mk.inj goneAgain).1) (Prod.mk.inj goneAgain).2
  refine ⟨stopped.1, stopped.2, patient.1, patient.2, done, also, ?_, cancelled⟩
  rw [← agree] at same
  exact step.toSameCounts.trans same.toSameCounts.symm

end Sweep

end ArkLifecycle
