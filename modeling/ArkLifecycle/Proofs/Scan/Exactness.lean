import ArkLifecycle.Proofs.Invocation.Target
import ArkLifecycle.Proofs.Scan.Findings

/-! What one scan of a body gives, statement by statement.

Every statement with a mark of an invocation gives one data flow, and every statement with a sign of
an undefined value one issue. Neither depends on the solver, and the issues depend on nothing but
the weak signs, which only add issues of their own.
-/

namespace ArkLifecycle

open Activity
open Invocation (IsMarked)

-----------------------------------------------------------------------------------------
-- Statements that invoke
-----------------------------------------------------------------------------------------

namespace Stmt

/-- (texts stmt) are the texts in which an invocation is looked for, that of the statement last. -/
def texts (stmt : Stmt) : List Text :=
  stmt.exprs.map Expr.text ++ [stmt.text]

/-- The statement, or one of its expressions, is marked as an invocation. -/
def Invokes (stmt : Stmt) : Prop :=
  ∃ text ∈ stmt.texts, IsMarked text

instance : DecidablePred Invokes :=
  fun stmt => inferInstanceAs (Decidable (∃ text ∈ stmt.texts, IsMarked text))

/-- The text is the first one of the statement that is marked as an invocation. -/
def IsInvoked (stmt : Stmt) (text : Text) : Prop :=
  ∃ before after,
    stmt.texts = before ++ text :: after
    ∧ IsMarked text
    ∧ ∀ other ∈ before, ¬ IsMarked other

end Stmt

namespace Scan

theorem invocationText?_eq_find? (stmt : Stmt)
    : invocationText? stmt = stmt.texts.find? Invocation.isInvocation := by
  rw [invocationText?, Stmt.texts, List.find?_append, List.find?_map]
  change _ = ((stmt.exprs.find? fun expr => Invocation.isInvocation expr.text).map Expr.text).or _
  cases stmt.exprs.find? fun expr => Invocation.isInvocation expr.text with
  | some expr => rfl
  | none =>
      cases marked : Invocation.isInvocation stmt.text <;> simp [marked]

theorem invocationText?_eq_some_iff {stmt : Stmt} {text : Text}
    : invocationText? stmt = some text ↔ stmt.IsInvoked text := by
  simp only [invocationText?_eq_find?, List.find?_eq_some_iff_append, Stmt.IsInvoked,
    ← Invocation.isInvocation_iff, Bool.not_eq_true, Bool.not_eq_true']
  constructor
  · rintro ⟨marked, before, after, written, unmarked⟩
    exact ⟨before, after, written, marked, unmarked⟩
  · rintro ⟨before, after, written, marked, unmarked⟩
    exact ⟨marked, before, after, written, unmarked⟩

theorem invocationText?_eq_none_iff {stmt : Stmt}
    : invocationText? stmt = none ↔ ¬ stmt.Invokes := by
  simp [invocationText?_eq_find?, Stmt.Invokes, ← Invocation.isInvocation_iff]

-----------------------------------------------------------------------------------------
-- Flows and issues of one statement
-----------------------------------------------------------------------------------------

/-- The data flow goes from the callback to what the statement invokes. -/
structure IsFlowOf (lead : List Json) (record : Record) (stmt : Stmt) (flow : DataFlow) : Prop where
  source : flow.source = record.key
  line : flow.line = stmt.line
  labelled : flow.target ≠ ""
  chain
    : ∃ text,
        stmt.IsInvoked text
        ∧ flow.target = Invocation.label text
        ∧ flow.chain
          = lead ++ [.text record.key, .text ((Invocation.target? text).getD "unknown")]

/-- The issue is the sign in the statement. -/
structure IsIssueOf (weak : Bool) (record : Record) (stmt : Stmt) (issue : RiskIssue) : Prop where
  method : issue.method = record.key
  className : issue.className = record.className
  line : issue.line = stmt.line
  sign : Risk.assess weak stmt.text = some ⟨issue.severity, issue.description, issue.confidence⟩

/-- What is picked from a list is told element by element. -/
theorem forall₂_filterMap {α β : Type} {keeps : α → Bool} {pick : α → Option β}
    {tells : α → β → Prop}
    (kept
      : ∀ element,
          keeps element = true → ∃ found, pick element = some found ∧ tells element found)
    (left : ∀ element, keeps element = false → pick element = none) (list : List α)
    : List.Forall₂ tells (list.filter keeps) (list.filterMap pick) := by
  induction list with
  | nil => exact .nil
  | cons element rest ih =>
      cases keep : keeps element with
      | false =>
          rwa [List.filter_cons_of_neg (by simp [keep]),
            List.filterMap_cons_none (left element keep)]
      | true =>
          obtain ⟨found, picked, told⟩ := kept element keep
          rw [List.filter_cons_of_pos keep, List.filterMap_cons_some picked]
          exact .cons told ih

/-- A statement that invokes something has one data flow. -/
theorem flowOf_of_invokes (lead : List Json) (record : Record) {stmt : Stmt}
    (invokes : stmt.Invokes)
    : ∃ flow, flowOf lead record stmt = some flow ∧ IsFlowOf lead record stmt flow := by
  cases found : invocationText? stmt with
  | none => exact absurd invokes (invocationText?_eq_none_iff.mp found)
  | some text =>
      have invoked := invocationText?_eq_some_iff.mp found
      obtain ⟨-, -, -, marked, -⟩ := id invoked
      rw [flowOf, found]
      exact ⟨_, rfl, rfl, rfl, Invocation.label_ne_empty marked, text, invoked, rfl, rfl⟩

theorem flowOf_of_not_invokes (lead : List Json) (record : Record) {stmt : Stmt}
    (quiet : ¬ stmt.Invokes)
    : flowOf lead record stmt = none := by
  rw [flowOf, invocationText?_eq_none_iff.mpr quiet]
  rfl

/-- A statement with a sign has one issue. -/
theorem issueOf_of_sign (weak : Bool) (record : Record) {stmt : Stmt}
    (sign : (Risk.assess weak stmt.text).isSome = true)
    : ∃ issue, issueOf weak record stmt = some issue ∧ IsIssueOf weak record stmt issue := by
  obtain ⟨found, shown⟩ := Option.isSome_iff_exists.mp sign
  rw [issueOf, shown]
  exact ⟨_, rfl, rfl, rfl, rfl, shown⟩

theorem issueOf_of_no_sign (weak : Bool) (record : Record) {stmt : Stmt}
    (clean : (Risk.assess weak stmt.text).isSome = false)
    : issueOf weak record stmt = none := by
  rw [issueOf, Option.map_eq_none_iff]
  simpa using clean

end Scan

-----------------------------------------------------------------------------------------
-- Weak signs
-----------------------------------------------------------------------------------------

/-- Weak signs count only where there is no other one. -/
theorem Risk.assess_strong (text : Text)
    : assess false text = (assess true text).filter (·.confidence = .normal) := by
  simp only [assess, Bool.not_false, Bool.not_true, if_true, Bool.false_eq_true, if_false]
  split_ifs <;> rfl

namespace Scan

theorem issueOf_strong (record : Record) (stmt : Stmt)
    : issueOf false record stmt
      = (issueOf true record stmt).filter (·.confidence = .normal) := by
  rw [issueOf, issueOf, Risk.assess_strong, Option.filter_map]
  rfl

/-- The issues without weak signs are the normal ones among all issues, in the same order. -/
theorem filterMap_issueOf_strong (record : Record) (stmts : List Stmt)
    : stmts.filterMap (issueOf false record)
      = (stmts.filterMap (issueOf true record)).filter (·.confidence = .normal) := by
  rw [List.filter_filterMap]
  exact List.filterMap_congr fun stmt _ => issueOf_strong record stmt

-----------------------------------------------------------------------------------------
-- A scan
-----------------------------------------------------------------------------------------

/-- The result tells of every statement in a body what there is to tell, in the order of the body.
-/
structure IsExact (options : ScanOptions) (record : Record) (cfg : Cfg) (result : ScanResult)
    : Prop where
  analyzed : result.analyzed = true
  flows
    : options.extractFlows = true
      → List.Forall₂ (IsFlowOf options.lead record) (cfg.stmts.filter (Stmt.Invokes ·)) result.flows
  unwanted : options.extractFlows = false → result.flows = []
  issues
    : List.Forall₂ (IsIssueOf options.weak record)
        (cfg.stmts.filter fun stmt => (Risk.assess options.weak stmt.text).isSome) result.issues

section Scanned

variable {record : Record} {method : Method} {cfg : Cfg}

/-- (resultIn options record cfg message) is what a body gives, when the solver failed with the
message or did not fail.
-/
def resultIn (options : ScanOptions) (record : Record) (cfg : Cfg) (message : Option Text)
    : ScanResult :=
  let (flows, issues) := scanBody options record cfg
  { flows, issues, analyzed := true, solverError := message }

theorem resultIn_isExact (options : ScanOptions) (record : Record) (cfg : Cfg)
    (message : Option Text)
    : IsExact options record cfg (resultIn options record cfg message) where
  analyzed := rfl
  flows := by
    intro wanted
    rw [resultIn, scanBody, wanted, if_pos rfl]
    refine forall₂_filterMap (fun stmt invokes => ?_) (fun stmt quiet => ?_) cfg.stmts
    · exact flowOf_of_invokes options.lead record (of_decide_eq_true invokes)
    · exact flowOf_of_not_invokes options.lead record (of_decide_eq_false quiet)
  unwanted := by
    intro unwanted
    rw [resultIn, scanBody, unwanted]
    rfl
  issues := forall₂_filterMap (fun _ => issueOf_of_sign options.weak record)
    (fun _ => issueOf_of_no_sign options.weak record) cfg.stmts

/-- A body that is told is scanned, whatever the solver does. -/
theorem outcome_scan (given : record.method = some method) (body : method.cfg = some cfg)
    (present : cfg.blocks ≠ []) {host : Host} {session : Session}
    (told : host.deny session.queries (.body method) = none) (options : ScanOptions)
    : ∃ message after,
        outcome (scan host options record) session
          = (.ok (resultIn options record cfg message), after) := by
  obtain ⟨message, after, done, -⟩ :=
    runSolver_quiet host method cfg { session with queries := .body method :: session.queries }
  refine ⟨message, after, ?_⟩
  have nonempty : cfg.isEmpty = false := by
    simpa [Cfg.isEmpty] using present
  have answered
      : outcome (Activity.bodyOf host method) session
        = (.ok (some cfg), { session with queries := .body method :: session.queries }) := by
    rw [Activity.bodyOf, outcome_asked, told, body]
    rfl
  simp only [scan, given, outcome_bind_ok answered, nonempty, Bool.false_eq_true, if_false,
    outcome_bind_ok done, outcome_pure, resultIn]

/-- Every scan of a body that is told is exact. Two scans of it give the same issues if weak signs
count in both or in neither, whether data flows are wanted and whatever the chains begin with; if
weak signs count in the second one only, the first one gives the normal issues of the second. With
the same options there is no difference but the message of the solver.
-/
theorem scan_isExact (given : record.method = some method) (body : method.cfg = some cfg)
    (present : cfg.blocks ≠ []) {host : Host} {session : Session}
    (told : host.deny session.queries (.body method) = none) (options : ScanOptions)
    : ∃ result after,
        outcome (scan host options record) session = (.ok result, after)
        ∧ IsExact options record cfg result
        ∧ ∀ (other : Host) (start : Session) (chosen : ScanOptions),
            other.deny start.queries (.body method) = none
            → ∃ again finish,
                outcome (scan other chosen record) start = (.ok again, finish)
                ∧ (chosen.weak = options.weak → again.issues = result.issues)
                ∧ (options.weak = false
                  → chosen.weak = true
                  → result.issues = again.issues.filter (·.confidence = .normal))
                ∧ (chosen = options → again.findings = result.findings) := by
  obtain ⟨message, after, done⟩ := outcome_scan given body present told options
  refine ⟨_, after, done, resultIn_isExact options record cfg message, ?_⟩
  intro other start chosen answered
  obtain ⟨remark, finish, ended⟩ := outcome_scan given body present answered chosen
  refine ⟨_, finish, ended, ?_, ?_, ?_⟩
  · intro same
    simp only [resultIn, scanBody, same]
  · intro strong weak
    simp only [resultIn, scanBody, strong, weak]
    exact filterMap_issueOf_strong record cfg.stmts
  · rintro rfl
    rfl

end Scanned

/-- (indexingBody) reads from a list, and calls something with what is in it. -/
def indexingBody : Cfg :=
  ⟨[⟨0, [⟨"x = list[0]", 2, 0, []⟩]⟩,
    ⟨1, [⟨"y = use(x, null)", 3, 0, [⟨"call use(x, null)", .unresolved⟩]⟩]⟩]⟩

/-- (indexing) is a callback with this body. -/
def indexing : Method where
  name := "onCreate"
  className := "A"
  signature := Method.defaultSignature "a.ets" "A" "onCreate"
  filePath := "a.ets"
  line := 1
  column := 0
  cfg := some indexingBody

/-- (indexingRecord) is the record of this callback. -/
def indexingRecord : Record where
  methodName := "onCreate"
  kind := .ability
  className := "A"
  filePath := "a.ets"
  line := 1
  hasImplementation := true
  signature := indexing.signature
  method := some indexing

/-- (diverging) is a host whose solver always fails. -/
def diverging : Host :=
  { Host.willing with solve := fun _ _ => some .emptyNumeral }

/-- The body is told to two hosts, and the solver of the first one fails. Weak signs count for the
second one only.
-/
theorem scan_isExact_indexing
    : ∃ result after,
        outcome (scan diverging ⟨false, [.text "root"], true⟩ indexingRecord) .fresh
          = (.ok result, after)
        ∧ IsExact ⟨false, [.text "root"], true⟩ indexingRecord indexingBody result
        ∧ ∃ again finish,
            outcome (scan .willing ⟨true, [], false⟩ indexingRecord) .fresh = (.ok again, finish)
            ∧ result.issues = again.issues.filter (·.confidence = .normal) := by
  have given : indexingRecord.method = some indexing := rfl
  have present : indexingBody.blocks ≠ [] := List.cons_ne_nil _ _
  have told : diverging.deny Session.fresh.queries (.body indexing) = none := rfl
  obtain ⟨result, after, done, exact, others⟩ :=
    scan_isExact given rfl present told ⟨false, [.text "root"], true⟩
  obtain ⟨again, finish, ended, -, normal, -⟩ := others .willing .fresh ⟨true, [], false⟩ rfl
  exact ⟨result, after, done, exact, again, finish, ended, normal rfl rfl⟩

end Scan

end ArkLifecycle
