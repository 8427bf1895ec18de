import ArkLifecycle.Proofs.Scan.Findings

/-! What a sweep finds, and what ends it.

Nothing in a sweep catches a denied question. It adds the issues of one class after the other, and
fails with the first fault it meets.
-/

namespace ArkLifecycle

open Activity

/-- The host denies the methods of a class or the body of a method for a fault that depends on
nothing else; other questions it may deny as it likes.
-/
structure Host.Steady (host : Host) (classes : ClassDecl → Option Fault)
    (bodies : Method → Option Fault)
    : Prop where
  methods : ∀ history decl, host.deny history (.methods decl) = classes decl
  body : ∀ history method, host.deny history (.body method) = bodies method

/-- An obliging host is steady. -/
theorem Host.Obliging.steady {host : Host} (obliging : host.Obliging)
    : host.Steady (fun _ => none) (fun _ => none) :=
  ⟨fun history _ => obliging history _, fun history _ => obliging history _⟩

namespace Sweep

-----------------------------------------------------------------------------------------
-- What there is to find, and what is denied
-----------------------------------------------------------------------------------------

/-- (sites skipTests files) are the classes that a sweep goes through, each with the path of its
file.
-/
def sites (skipTests : Bool) : List SourceFile → List (Text × ClassDecl)
  | [] => []
  | file :: rest =>
      if skipTests && isTestPath file.path then
        sites skipTests rest
      else
        file.classes.map (file.path, ·) ++ sites skipTests rest

/-- (methodIssues path decl method) are the issues that there are to find in a method. -/
def methodIssues (path : Text) (decl : ClassDecl) (method : Method) : List ProjectIssue :=
  match method.cfg with
  | some cfg => if isSweepable method then cfg.stmts.flatMap (issuesOf path decl method) else []
  | none => []

/-- (siteIssues site) are the issues that there are to find in a class. -/
def siteIssues (site : Text × ClassDecl) : List ProjectIssue :=
  site.2.methods.flatMap (methodIssues site.1 site.2)

/-- (issuesLeft classes bodies site) are the issues in a class that do not need a question that is
denied.
-/
def issuesLeft (classes : ClassDecl → Option Fault) (bodies : Method → Option Fault)
    (site : Text × ClassDecl)
    : List ProjectIssue :=
  if (classes site.2).isSome then
    []
  else
    (site.2.methods.filter fun method => (bodies method).isNone).flatMap
      (methodIssues site.1 site.2)

/-- (methodDenials bodies method) is the fault for which the body of a method is denied, if a sweep
asks for it.
-/
def methodDenials (bodies : Method → Option Fault) (method : Method) : List Fault :=
  if isSweepable method then (bodies method).toList else []

/-- (siteDenials classes bodies site) are the faults for which something of a class is denied. -/
def siteDenials (classes : ClassDecl → Option Fault) (bodies : Method → Option Fault)
    (site : Text × ClassDecl)
    : List Fault :=
  match classes site.2 with
  | some fault => [fault]
  | none => site.2.methods.flatMap (methodDenials bodies)

-----------------------------------------------------------------------------------------
-- Parts of a sweep
-----------------------------------------------------------------------------------------

/-- The task carries a sweep on, which was not stopped, and adds the given issues to it. If
something is denied, it fails with the first fault instead.
-/
structure Gives (denials : List Fault) (issues : List ProjectIssue)
    (task : Sweep → Activity Sweep)
    : Prop where
  found
    : denials = []
      → ∀ sweep before,
          sweep.cancelled = false
          → ∃ next after,
              outcome (task sweep) before = (.ok next, after)
              ∧ next.issues = sweep.issues ++ issues
              ∧ next.cancelled = false
  denied
    : ∀ fault,
        denials.head? = some fault
        → ∀ sweep before,
            sweep.cancelled = false → (outcome (task sweep) before).1 = .error fault

/-- Where there is nothing to go through, nothing is added. -/
theorem Gives.nil : Gives [] [] pure := by
  refine ⟨fun _ sweep before going => ⟨sweep, before, rfl, by simp, going⟩, ?_⟩
  intro fault none
  cases none

/-- One part after the other. Witness: the second one does not run when the first one fails. -/
theorem Gives.andThen {denials later : List Fault} {issues more : List ProjectIssue}
    {task next : Sweep → Activity Sweep} (first : Gives denials issues task)
    (second : Gives later more next)
    : Gives (denials ++ later) (issues ++ more) (fun sweep => task sweep >>= next) := by
  constructor
  · intro none sweep before going
    obtain ⟨none, noneLater⟩ := List.append_eq_nil_iff.mp none
    obtain ⟨middle, session, done, added, going⟩ := first.found none sweep before going
    obtain ⟨final, after, finished, appended, ended⟩ :=
      second.found noneLater middle session going
    refine ⟨final, after, (outcome_bind_ok done).trans finished, ?_, ended⟩
    rw [appended, added, List.append_assoc]
  · intro fault firstFault sweep before going
    cases denials with
    | nil =>
        obtain ⟨middle, session, done, -, going⟩ := first.found rfl sweep before going
        rw [outcome_bind_ok done]
        exact second.denied fault firstFault middle session going
    | cons cause rest =>
        have failed := first.denied cause rfl sweep before going
        rw [outcome_bind_error (Prod.ext failed rfl)]
        exact congrArg Except.error (Option.some.inj firstFault)

/-- A part before which something is counted. -/
theorem Gives.after {denials : List Fault} {issues : List ProjectIssue}
    {task : Sweep → Activity Sweep} (given : Gives denials issues task) (count : Sweep → Sweep)
    (same : ∀ sweep, (count sweep).issues = sweep.issues)
    (kept : ∀ sweep, (count sweep).cancelled = sweep.cancelled)
    : Gives denials issues (fun sweep => task (count sweep)) := by
  constructor
  · intro none sweep before going
    rw [← same]
    exact given.found none (count sweep) before ((kept sweep).trans going)
  · intro fault first sweep before going
    exact given.denied fault first (count sweep) before ((kept sweep).trans going)

/-- A part that begins with a task that always gives the same value. -/
theorem Gives.asking {α : Type} {denials : List Fault} {issues : List ProjectIssue}
    {question : Activity α} {value : α} {task : Sweep → α → Activity Sweep}
    (told : ∀ before, (outcome question before).1 = .ok value)
    (given : Gives denials issues (task · value))
    : Gives denials issues (fun sweep => question >>= task sweep) := by
  constructor
  · intro none sweep before going
    rw [outcome_bind_ok (Prod.ext (told before) rfl)]
    exact given.found none sweep _ going
  · intro fault first sweep before going
    rw [outcome_bind_ok (Prod.ext (told before) rfl)]
    exact given.denied fault first sweep _ going

/-- A part that begins with a question that is always denied. -/
theorem Gives.refused {α : Type} {fault : Fault} {question : Activity α}
    {task : Sweep → α → Activity Sweep} (issues : List ProjectIssue)
    (refused : ∀ before, (outcome question before).1 = .error fault)
    : Gives [fault] issues (fun sweep => question >>= task sweep) := by
  constructor
  · intro none
    cases none
  · intro cause first sweep before _
    rw [outcome_bind_error (Prod.ext (refused before) rfl)]
    exact congrArg Except.error (Option.some.inj first)

-----------------------------------------------------------------------------------------
-- Methods, classes and files
-----------------------------------------------------------------------------------------

variable {host : Host} {classes : ClassDecl → Option Fault} {bodies : Method → Option Fault}

/-- A body adds the issues of its statements, whatever the solver does. -/
theorem sweepBody_gives (path : Text) (decl : ClassDecl) (method : Method) (cfg : Cfg)
    : Gives [] (cfg.stmts.flatMap (issuesOf path decl method)) (fun sweep =>
        if cfg.isEmpty then
          return sweep
        else do
          let failed ← Scan.runSolver host method cfg
          return { sweep with
            solverErrors := sweep.solverErrors + (if failed.isSome then 1 else 0)
            issues := sweep.issues ++ cfg.stmts.flatMap (issuesOf path decl method) }) := by
  cases empty : cfg.isEmpty with
  | true =>
      -- A graph without blocks has no statements either, so that nothing is left out.
      have none : cfg.stmts = [] := by
        rw [Cfg.stmts, List.isEmpty_iff.mp empty, List.flatMap_nil]
      rw [none]
      exact .nil
  | false =>
      constructor
      · intro _ sweep before going
        obtain ⟨message, after, done, -⟩ := Scan.runSolver_quiet host method cfg before
        exact ⟨_, after, outcome_bind_ok done, rfl, going⟩
      · intro fault none
        cases none

/-- A method adds its issues, unless its body is asked for and denied. -/
theorem sweepMethod_gives (steady : host.Steady classes bodies) (path : Text) (decl : ClassDecl)
    (method : Method)
    : Gives (methodDenials bodies method) (methodIssues path decl method)
        (sweepMethod host path decl · method) := by
  unfold sweepMethod methodDenials methodIssues
  cases swept : isSweepable method with
  | false => cases method.cfg <;> exact .nil
  | true =>
      cases denied : bodies method with
      | some fault =>
          refine Gives.refused _ fun before => ?_
          rw [bodyOf, outcome_asked, steady.body, denied]
          rfl
      | none =>
          have told (before : Session)
              : (outcome (bodyOf host method) before).1 = .ok method.cfg := by
            rw [bodyOf, outcome_asked, steady.body, denied]
            rfl
          refine Gives.asking told ?_
          let counted (sweep : Sweep) : Sweep :=
            { sweep with analyzedMethods := sweep.analyzedMethods + 1 }
          cases method.cfg with
          | none => exact Gives.nil.after counted (fun _ => rfl) (fun _ => rfl)
          | some cfg =>
              exact (sweepBody_gives path decl method cfg).after counted (fun _ => rfl)
                (fun _ => rfl)

/-- Methods add their issues one after the other. Witness: induction over the methods. -/
theorem sweepMethods_gives (steady : host.Steady classes bodies) (path : Text)
    (decl : ClassDecl) (methods : List Method)
    : Gives (methods.flatMap (methodDenials bodies)) (methods.flatMap (methodIssues path decl))
        (sweepMethods host path decl · methods) := by
  induction methods with
  | nil => exact .nil
  | cons method rest ih => exact (sweepMethod_gives steady path decl method).andThen ih

/-- A class adds the issues of its methods, unless one of its questions is denied. -/
theorem sweepClass_gives (steady : host.Steady classes bodies) (site : Text × ClassDecl)
    : Gives (siteDenials classes bodies site) (siteIssues site)
        (sweepClass host site.1 · site.2) := by
  unfold siteDenials siteIssues
  cases denied : classes site.2 with
  | some fault =>
      refine .refused _ fun before => ?_
      rw [methodsOf, outcome_asked, steady.methods, denied]
      rfl
  | none =>
      have told (before : Session)
          : (outcome (methodsOf host site.2) before).1 = .ok site.2.methods := by
        rw [methodsOf, outcome_asked, steady.methods, denied]
        rfl
      have methods := sweepMethods_gives steady site.1 site.2 site.2.methods
      exact .asking told (methods.after _ (fun _ => rfl) (fun _ => rfl))

/-- Classes of a file add their issues one after the other, when nobody stops the sweep. -/
theorem sweepClasses_gives (steady : host.Steady classes bodies) (patient : host.Patient)
    (path : Text) (decls : List ClassDecl)
    : Gives ((decls.map (path, ·)).flatMap (siteDenials classes bodies))
        ((decls.map (path, ·)).flatMap siteIssues) (sweepClasses host path · decls) := by
  induction decls with
  | nil => exact .nil
  | cons decl rest ih =>
      have going (before : Session) : (outcome (shouldStop host) before).1 = .ok false := by
        rw [outcome_shouldStop, patient]
      exact .asking going ((sweepClass_gives steady (path, decl)).andThen ih)

/-- Files add the issues of their classes, unless they are skipped. Witness: induction over the
files.
-/
theorem sweepFiles_gives (steady : host.Steady classes bodies) (patient : host.Patient)
    (skipTests : Bool) (files : List SourceFile)
    : Gives ((sites skipTests files).flatMap (siteDenials classes bodies))
        ((sites skipTests files).flatMap siteIssues) (sweepFiles host skipTests · files) := by
  induction files with
  | nil => exact .nil
  | cons file rest ih =>
      unfold sweepFiles sites
      cases skipped : skipTests && isTestPath file.path with
      | true =>
          simp only [if_true]
          exact ih.after _ (fun _ => rfl) (fun _ => rfl)
      | false =>
          simp only [Bool.false_eq_true, if_false, List.flatMap_append]
          refine (sweepClasses_gives steady patient file.path file.classes).andThen ?_
          constructor
          · intro none sweep before going
            simp only [going, Bool.false_eq_true, if_false]
            exact ih.found none sweep before going
          · intro fault first sweep before going
            simp only [going, Bool.false_eq_true, if_false]
            exact ih.denied fault first sweep before going

-----------------------------------------------------------------------------------------
-- Whole sweeps
-----------------------------------------------------------------------------------------

/-- (denials classes bodies skipTests files) are the faults for which something is denied to a
sweep, in the order in which it would meet them.
-/
def denials (classes : ClassDecl → Option Fault) (bodies : Method → Option Fault)
    (skipTests : Bool) (files : List SourceFile)
    : List Fault :=
  (sites skipTests files).flatMap (siteDenials classes bodies)

/-- Nothing is denied to a sweep when no class it goes through is denied and no method of these
that it examines.
-/
theorem denials_eq_nil_iff {skipTests : Bool} {files : List SourceFile}
    : denials classes bodies skipTests files = []
      ↔ ∀ site ∈ sites skipTests files,
          classes site.2 = none
          ∧ ∀ method ∈ site.2.methods, isSweepable method = true → bodies method = none := by
  rw [denials, List.flatMap_eq_nil_iff]
  refine forall₂_congr fun site _ => ?_
  unfold siteDenials
  cases classes site.2 with
  | some fault => simp
  | none =>
      simp only [List.flatMap_eq_nil_iff, methodDenials, true_and]
      refine forall₂_congr fun method _ => ?_
      split <;> simp_all

/-- Where nothing is denied, all issues are left.
Witness: a method whose body is denied all the same is not examined, and has no issues.
-/
theorem issuesLeft_eq_siteIssues {site : Text × ClassDecl} (listed : classes site.2 = none)
    (given : ∀ method ∈ site.2.methods, isSweepable method = true → bodies method = none)
    : issuesLeft classes bodies site = siteIssues site := by
  have left (methods : List Method)
      (given : ∀ method ∈ methods, isSweepable method = true → bodies method = none)
      : (methods.filter fun method => (bodies method).isNone).flatMap
          (methodIssues site.1 site.2)
        = methods.flatMap (methodIssues site.1 site.2) := by
    induction methods with
    | nil => rfl
    | cons method rest ih =>
        have same := ih fun method member => given method (List.mem_cons_of_mem _ member)
        cases denied : bodies method with
        | none => simp [denied, same]
        | some fault =>
            have unswept : isSweepable method = false := by
              cases swept : isSweepable method with
              | false => rfl
              | true => simp [given method (by simp) swept] at denied
            have nothing : methodIssues site.1 site.2 method = [] := by
              cases body : method.cfg <;> simp [methodIssues, body, unswept]
            simp [denied, same, nothing]
  simp only [issuesLeft, listed, siteIssues]
  exact left site.2.methods given

/-- A sweep that nobody stops finds all issues; if something is denied, it fails with the first
fault.
-/
theorem run_gives (steady : host.Steady classes bodies) (patient : host.Patient)
    (program : Program) (skipTests : Bool) (before : Session)
    : (denials classes bodies skipTests program.files = []
        → ∃ sweep after,
            outcome (Sweep.run host program skipTests) before = (.ok sweep, after)
            ∧ sweep.issues = (sites skipTests program.files).flatMap siteIssues)
      ∧ ∀ fault,
          (denials classes bodies skipTests program.files).head? = some fault
          → (outcome (Sweep.run host program skipTests) before).1 = .error fault := by
  have given := sweepFiles_gives steady patient skipTests program.files
  let start : Sweep :=
    { issues := []
      totalFiles := program.files.length
      totalClasses := 0
      totalMethods := 0
      analyzedMethods := 0
      skippedFiles := 0
      solverErrors := 0
      cancelled := false }
  constructor
  · intro none
    obtain ⟨sweep, after, done, added, -⟩ := given.found none start before rfl
    exact ⟨sweep, after, done, added⟩
  · exact fun fault first => given.denied fault first start before rfl

/-- For an obliging host the sweep of a class ends. -/
theorem sweepClass_obliged (obliging : host.Obliging) (path : Text) (decl : ClassDecl)
    {sweep : Sweep} (going : sweep.cancelled = false) (before : Session)
    : ∃ next after,
        outcome (sweepClass host path sweep decl) before = (.ok next, after)
        ∧ next.cancelled = false := by
  have free : siteDenials (fun _ => none) (fun _ => none) (path, decl) = [] := by
    simp [siteDenials, methodDenials]
  obtain ⟨next, after, done, -, going⟩ :=
    (sweepClass_gives obliging.steady (path, decl)).found free sweep before going
  exact ⟨next, after, done, going⟩

/-- For an obliging host a sweep ends, wherever it is stopped.
Witness: induction over the files, and in each of them over the classes.
-/
theorem run_obliged (obliging : host.Obliging) (program : Program) (skipTests : Bool)
    (before : Session)
    : ∃ sweep after, outcome (Sweep.run host program skipTests) before = (.ok sweep, after) := by
  have file (path : Text) (decls : List ClassDecl) {sweep : Sweep} (before : Session)
      (going : sweep.cancelled = false)
      : ∃ next after, outcome (sweepClasses host path sweep decls) before = (.ok next, after) := by
    induction decls generalizing sweep before with
    | nil => exact ⟨sweep, before, rfl⟩
    | cons decl rest ih =>
        rw [sweepClasses, outcome_bind_ok (outcome_shouldStop host before)]
        cases host.stop before.looks with
        | true => exact ⟨_, _, rfl⟩
        | false =>
            obtain ⟨next, middle, done, going⟩ := sweepClass_obliged obliging path decl going
              { before with looks := before.looks + 1 }
            obtain ⟨final, after, rested⟩ := ih middle going
            exact ⟨final, after, (outcome_bind_ok done).trans rested⟩
  have files (files : List SourceFile) {sweep : Sweep} (before : Session)
      (going : sweep.cancelled = false)
      : ∃ next after,
          outcome (sweepFiles host skipTests sweep files) before = (.ok next, after) := by
    induction files generalizing sweep before with
    | nil => exact ⟨sweep, before, rfl⟩
    | cons source rest ih =>
        unfold sweepFiles
        split
        · exact ih before going
        · obtain ⟨next, middle, done⟩ := file source.path source.classes before going
          rw [outcome_bind_ok done]
          cases stopped : next.cancelled with
          | true => exact ⟨next, middle, rfl⟩
          | false =>
              obtain ⟨final, after, rested⟩ := ih middle stopped
              exact ⟨final, after, rested⟩
  exact files program.files before rfl

end Sweep

end ArkLifecycle
