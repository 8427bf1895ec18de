import ArkLifecycle.Analysis
import ArkLifecycle.Proofs.Session.Inquiry
import Mathlib.Data.List.Forall2

/-! What the scan of a callback finds.

A task that is not to stop finds what is in the body of its callback, or nothing because the body
was denied, and then there is an error for it. The solver changes nothing else.
-/

namespace ArkLifecycle

open Activity

/-- (ScanResult.findings result) leaves aside whether the solver failed. -/
def ScanResult.findings (result : ScanResult) : ScanResult :=
  { result with solverError := none }

@[simp]
theorem ScanResult.findings_flows (result : ScanResult) : result.findings.flows = result.flows :=
  rfl

@[simp]
theorem ScanResult.findings_issues (result : ScanResult)
    : result.findings.issues = result.issues :=
  rfl

@[simp]
theorem ScanResult.findings_analyzed (result : ScanResult)
    : result.findings.analyzed = result.analyzed :=
  rfl

namespace Scan

-----------------------------------------------------------------------------------------
-- True findings
-----------------------------------------------------------------------------------------

/-- (bodyIn record) is the graph in which a callback is scanned, unless that is empty. -/
def bodyIn (record : Record) : Option Cfg :=
  if record.hasImplementation then
    (record.method.bind Method.cfg).filter (!·.isEmpty)
  else
    none

/-- (scanIn options record) is what there is to find in a callback. -/
def scanIn (options : ScanOptions) (record : Record) : ScanResult :=
  match bodyIn record with
  | none => nothing
  | some cfg =>
      let (flows, issues) := scanBody options record cfg
      { flows, issues, analyzed := true, solverError := none }

/-- (issuesIn weak record) are the issues that there are to find in a callback. -/
def issuesIn (weak : Bool) (record : Record) : List RiskIssue :=
  match bodyIn record with
  | none => []
  | some cfg => cfg.stmts.filterMap (issueOf weak record)

/-- The issues among the findings are those that there are to find. -/
theorem scanIn_issues (options : ScanOptions) (record : Record)
    : (scanIn options record).issues = issuesIn options.weak record := by
  unfold scanIn issuesIn
  cases bodyIn record <;> rfl

theorem scanIn_analyzed (options : ScanOptions) (record : Record)
    : (scanIn options record).analyzed = (bodyIn record).isSome := by
  unfold scanIn
  cases bodyIn record <;> rfl

/-- (IsBodyOf record query) holds of the question for the body of a callback. -/
def IsBodyOf (record : Record) (query : Query) : Prop :=
  ∃ method ∈ record.method, query = .body method

/-- Calling the solver puts no question, and always gives a message or none. -/
theorem runSolver_quiet (host : Host) (method : Method) (cfg : Cfg) (before : Session)
    : ∃ message after,
        outcome (runSolver host method cfg) before = (.ok message, after)
        ∧ Asked before after [] := by
  unfold runSolver
  cases cfg.entryStmt? with
  | none => exact ⟨none, before, rfl, rfl, rfl⟩
  | some entry =>
      refine ⟨_, _, outcome_bind_ok (outcome_solve host _ before), rfl, rfl⟩

/-- The findings in a body are told truthfully, whatever the solver does. -/
theorem scan_answers (host : Host) (options : ScanOptions) {record : Record}
    (present : record.hasImplementation = true)
    : Answers host (IsBodyOf record) (ScanResult.findings <$> scan host options record)
        (.ok (scanIn options record)) := by
  unfold scan scanIn bodyIn
  simp only [present, if_true]
  cases given : record.method with
  | none => exact .pure nothing
  | some method =>
      simp only [map_bind, Option.bind_some]
      refine (Answers.bodyOf ⟨method, given, rfl⟩).bind_ok ?_
      cases method.cfg with
      | none => exact .pure nothing
      | some cfg =>
          cases empty : cfg.isEmpty with
          | true =>
              simp only [Option.filter, empty]
              exact .pure nothing
          | false =>
              intro before
              obtain ⟨message, after, done, step⟩ := runSolver_quiet host method cfg before
              simp only [Option.filter, empty, Bool.false_eq_true, if_false, outcome_map,
                outcome_bind_ok done, outcome_pure]
              exact ⟨[], step, by simp, Or.inl rfl⟩

end Scan

namespace Analysis

-----------------------------------------------------------------------------------------
-- Tasks
-----------------------------------------------------------------------------------------

/-- The question for the body of a callback was put between two states of the log, and denied. -/
def BodyDenied (host : Host) (start finish : List Query) (record : Record) : Prop :=
  ∃ question,
    Scan.IsBodyOf record question.query
    ∧ host.denies question
    ∧ start <:+ question.history
    ∧ question.query :: question.history <:+ finish

/-- A callback was scanned truthfully; or nothing was found in it because its body was denied, and
then one of the errors names it.
-/
def Told (host : Host) (options : ScanOptions) (errors : List StageError)
    (start finish : List Query) (record : Record) (result : ScanResult)
    : Prop :=
  result.findings = Scan.scanIn options record
  ∨ result = Scan.nothing
    ∧ (∃ message, .scan record.key message ∈ errors)
    ∧ BodyDenied host start finish record

/-- What is told of a callback stays true among more errors and in a longer log. -/
theorem Told.widen {host : Host} {options : ScanOptions} {errors more : List StageError}
    {start finish earlier later : List Query} {record : Record} {result : ScanResult}
    (told : Told host options errors start finish record result)
    (kept : errors ⊆ more) (before : earlier <:+ start) (after : finish <:+ later)
    : Told host options more earlier later record result := by
  rcases told with same | ⟨none, ⟨message, listed⟩, question, body, denied, begun, put⟩
  · exact Or.inl same
  · exact Or.inr ⟨none, ⟨message, kept listed⟩, question, body, denied, before.trans begun,
      put.trans after⟩

/-- To an obliging host every callback is told truthfully. -/
theorem Told.obliged {host : Host} {options : ScanOptions} {errors : List StageError}
    {start finish : List Query} {record : Record} {result : ScanResult}
    (told : Told host options errors start finish record result) (obliging : host.Obliging)
    : result.findings = Scan.scanIn options record := by
  rcases told with same | ⟨-, -, question, -, denied, -⟩
  · exact same
  · exact absurd denied (obliging.not_denies question)

/-- To an obliging host a list of callbacks is told truthfully.
Witness: induction over the callbacks and their results.
-/
theorem map_findings_obliged {host : Host} {options : ScanOptions} {errors : List StageError}
    {start finish : List Query} {records : List Record} {results : List ScanResult}
    (told : List.Forall₂ (Told host options errors start finish) records results)
    (obliging : host.Obliging)
    : results.map ScanResult.findings = records.map (Scan.scanIn options) := by
  induction told with
  | nil => rfl
  | cons told _ ih => rw [List.map_cons, List.map_cons, told.obliged obliging, ih]

/-- The scan of a callback with an implementation gives its true findings, or it fails because the
body was denied.
-/
theorem scan_found_or_denied (host : Host) (options : ScanOptions) {record : Record}
    (present : record.hasImplementation = true) (before : Session)
    : ∃ given after,
        outcome (Scan.scan host options record) before = (given, after)
        ∧ Extends before after
        ∧ ((∃ result, given = .ok result ∧ result.findings = Scan.scanIn options record)
          ∨ (∃ fault, given = .error fault)
            ∧ BodyDenied host before.queries after.queries record) := by
  obtain ⟨asked, step, body, told⟩ := Scan.scan_answers host options present before
  rw [outcome_map] at step told
  rcases done : outcome (Scan.scan host options record) before with ⟨given, after⟩
  rw [done] at step told
  refine ⟨given, after, rfl, step.extends, ?_⟩
  cases given with
  | ok result =>
      rcases told with same | ⟨⟨fault, failed⟩, -⟩
      · exact Or.inl ⟨result, rfl, Except.ok.inj same⟩
      · cases failed
  | error fault =>
      rcases told with same | ⟨-, question, put, denied⟩
      · cases same
      · obtain ⟨begun, logged, listed⟩ := mem_questionsOn put
        rw [← step.queries] at logged
        exact Or.inr ⟨⟨fault, rfl⟩, question, body _ listed, denied, begun, logged⟩

/-- A task looks once whether to stop. If it is not to stop, it tells of its callback.
Witness: a callback without an implementation is not asked for its body.
-/
theorem scanTask_told (host : Host) (options : ScanOptions) (record : Record)
    (before : Session)
    : ∃ result errors after,
        outcome (scanTask host options record) before = (.ok (result, errors), after)
        ∧ before.queries <:+ after.queries
        ∧ after.looks = before.looks + 1
        ∧ (result = none ∧ host.stop before.looks = true
          ∨ host.stop before.looks = false
            ∧ ∃ found,
                result = some found
                ∧ Told host options errors before.queries after.queries record found) := by
  have looked := outcome_shouldStop host before
  cases stopped : host.stop before.looks with
  | true =>
      rw [stopped] at looked
      rw [scanTask, outcome_bind_ok looked]
      exact ⟨none, [], _, rfl, List.suffix_rfl, rfl, Or.inl ⟨rfl, rfl⟩⟩
  | false =>
      rw [stopped] at looked
      rw [scanTask, outcome_bind_ok looked]
      cases present : record.hasImplementation with
      | false =>
          have empty : Scan.scanIn options record = Scan.nothing := by
            simp [Scan.scanIn, Scan.bodyIn, present]
          exact ⟨some Scan.nothing, [], _, rfl, List.suffix_rfl, rfl,
            Or.inr ⟨rfl, _, rfl, Or.inl empty.symm⟩⟩
      | true =>
          obtain ⟨given, after, done, extended, found⟩ := scan_found_or_denied host options
            present { before with looks := before.looks + 1 }
          have tried := outcome_attempt (Scan.scan host options record)
            { before with looks := before.looks + 1 }
          rw [done] at tried
          rcases found with ⟨result, same, found⟩ | ⟨⟨fault, same⟩, denied⟩
          · subst same
            refine ⟨some result, [], after, ?_, extended.queries, extended.looks,
              Or.inr ⟨rfl, result, rfl, Or.inl found⟩⟩
            exact outcome_bind_ok tried
          · subst same
            refine ⟨some Scan.nothing, [.scan record.key fault.message], after, ?_,
              extended.queries, extended.looks, Or.inr ⟨rfl, _, rfl, Or.inr ⟨rfl, ?_, denied⟩⟩⟩
            · exact outcome_bind_ok tried
            · exact ⟨fault.message, List.mem_singleton_self _⟩

end Analysis

end ArkLifecycle
