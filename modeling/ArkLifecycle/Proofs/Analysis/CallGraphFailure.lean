import ArkLifecycle.Proofs.Analysis.Course
import ArkLifecycle.Proofs.Analysis.Results
import ArkLifecycle.Proofs.Text.Cutting

/-! How it shows that a call graph could not be built.

A builder that fails leaves its message in the summary, and by the message alone the analysis knows
that something went wrong. So an empty message says nothing: there is no call graph and there are no
data flows, but neither is there an error, nor does the stage end with one.
-/

namespace ArkLifecycle

open Activity

-----------------------------------------------------------------------------------------
-- Faults of the builder
-----------------------------------------------------------------------------------------

namespace CallGraphSummary

variable (backend : Backend) (host : Host) (program : Program) (records : List Record)

/-- (rootsOf known records) are the roots when it is known whether there is an entry method. -/
def rootsOf (known : Bool) : List Text :=
  if known then [EntryMethod.signature] else CallGraph.distinct (records.map Record.signature)

/-- (raised backend host program records session) is the fault of the builder: the one with which it
fails when it is asked for the entry method, or else when it builds from the roots, if there are
any.
-/
def raised (session : Session) : Option Fault :=
  match outcome (backend.hasMethod program EntryMethod.signature) session with
  | (.error fault, _) => some fault
  | (.ok known, middle) =>
      if rootsOf records known = [] then
        none
      else
        match (outcome (backend.build host program (rootsOf records known))
          (middle.openSpan (.text "stage.callgraph"))).1 with
        | .error fault => some fault
        | .ok _ => none

variable {backend host program}

/-- The roots are chosen by the answer of the builder alone. -/
theorem chooseRoots_known {known : Bool} {before after : Session}
    (asked
      : outcome (backend.hasMethod program EntryMethod.signature) before = (.ok known, after))
    : ∃ strategy,
        outcome (chooseRoots backend program records) before
          = (.ok (strategy, rootsOf records known), after) := by
  rw [chooseRoots, outcome_bind_ok asked]
  cases known with
  | true => exact ⟨_, rfl⟩
  | false =>
      simp only [rootsOf, Bool.false_eq_true, if_false]
      split
      · next none => exact ⟨_, by rw [none]; rfl⟩
      · exact ⟨_, rfl⟩

/-- The builder is only called if there are roots, and its fault is that of the span. -/
theorem buildFrom_outcome (strategy : Strategy) (entries : List Text) (before : Session)
    : (outcome (buildFrom backend host program strategy entries) before).1
      = if entries = [] then .ok none else
          (outcome (backend.build host program entries)
            (before.openSpan (.text "stage.callgraph"))).1.map some := by
  unfold buildFrom
  cases entries with
  | nil => rfl
  | cons entry rest =>
      simp only [List.isEmpty_cons, Bool.false_eq_true, if_false, reduceCtorEq]
      rw [outcome_span (outcome_map _ _ _)]

/-- The summary has the message of the fault, if there is one, and then it has no graph. -/
theorem build_raised (before : Session)
    : ∃ summary after,
        outcome (build backend host program records) before = (.ok summary, after)
        ∧ summary.error = (raised backend host program records before).map Fault.message
        ∧ (summary.error ≠ none → summary.graph = none) := by
  unfold raised
  have tried := outcome_attempt (chooseRoots backend program records) before
  cases asked : outcome (backend.hasMethod program EntryMethod.signature) before with
  | mk answer middle =>
      cases answer with
      | error fault =>
          have choosing
              : outcome (chooseRoots backend program records) before = (.error fault, middle) :=
            outcome_bind_error asked
          rw [choosing] at tried
          rw [build, outcome_bind_ok tried]
          exact ⟨_, _, rfl, rfl, fun _ => rfl⟩
      | ok known =>
          obtain ⟨strategy, choosing⟩ := chooseRoots_known records asked
          rw [choosing] at tried
          rw [build, outcome_bind_ok tried]
          dsimp only
          have built := outcome_attempt
            (buildFrom backend host program strategy (rootsOf records known)) middle
          rw [buildFrom_outcome] at built
          by_cases none : rootsOf records known = []
          · rw [if_pos none] at built ⊢
            rw [outcome_bind_ok built]
            exact ⟨_, _, rfl, rfl, fun _ => rfl⟩
          · rw [if_neg none] at built ⊢
            rw [outcome_bind_ok built]
            cases (outcome (backend.build host program (rootsOf records known))
              (middle.openSpan (.text "stage.callgraph"))).1 with
            | error fault => exact ⟨_, _, rfl, rfl, fun _ => rfl⟩
            | ok graph => exact ⟨_, _, rfl, rfl, fun some => absurd rfl some⟩

end CallGraphSummary

-----------------------------------------------------------------------------------------
-- Errors of the scan
-----------------------------------------------------------------------------------------

/-- (isCallGraph error) holds of the error of the call graph. -/
def StageError.isCallGraph : StageError → Bool
  | .callGraph _ => true
  | .scan _ _ => false

namespace Analysis

variable {host : Host} {program : Program} {catalog : Catalog} {options : AnalysisOptions}
  {before after : Session}

/-- None of the errors is one of the call graph. -/
def OfScan (errors : List StageError) : Prop :=
  ∀ error ∈ errors, error.isCallGraph = false

theorem OfScan.append {errors more : List StageError} (first : OfScan errors) (later : OfScan more)
    : OfScan (errors ++ more) := by
  intro error member
  exact (List.mem_append.mp member).elim (first error) (later error)

theorem scanTask_errors {scanning : ScanOptions} {record : Record} {result : Option ScanResult}
    {errors : List StageError}
    (done : outcome (scanTask host scanning record) before = (.ok (result, errors), after))
    : OfScan errors := by
  obtain ⟨stop, middle, -, done⟩ := outcome_bind_eq_ok done
  split at done
  · cases done
    simp [OfScan]
  · split at done
    · cases done
      simp [OfScan]
    · obtain ⟨tried, middle, -, done⟩ := outcome_bind_eq_ok done
      cases tried <;> cases done <;> simp [OfScan, StageError.isCallGraph]

theorem scanInOrder_errors {scanning : ScanOptions} {records : List Record}
    {results : List ScanResult} {errors : List StageError}
    (done : outcome (scanInOrder host scanning records) before = (.ok (results, errors), after))
    : OfScan errors := by
  induction records generalizing before results errors with
  | nil =>
      cases done
      simp [OfScan]
  | cons record rest ih =>
      obtain ⟨⟨result, first⟩, middle, scanned, done⟩ := outcome_bind_eq_ok done
      cases result with
      | none =>
          cases done
          exact scanTask_errors scanned
      | some result =>
          obtain ⟨⟨later, more⟩, _, rested, done⟩ := outcome_bind_eq_ok done
          cases done
          exact (scanTask_errors scanned).append (ih rested)

theorem runTasks_errors {scanning : ScanOptions} {records : List Record} {order : List Nat}
    {results : List (Nat × Option ScanResult)} {errors : List StageError}
    (done : outcome (runTasks host scanning records order) before = (.ok (results, errors), after))
    : OfScan errors := by
  induction order generalizing before results errors with
  | nil =>
      cases done
      simp [OfScan]
  | cons place rest ih =>
      unfold runTasks at done
      split at done
      · exact ih done
      · obtain ⟨⟨result, first⟩, middle, scanned, done⟩ := outcome_bind_eq_ok done
        obtain ⟨⟨later, more⟩, _, rested, done⟩ := outcome_bind_eq_ok done
        cases done
        exact (scanTask_errors scanned).append (ih rested)

/-- Scans leave errors of their own only, in whatever order they are made. -/
theorem scanStage_errors {summary : CallGraphSummary} {records : List Record} {scanned : Scanned}
    (done
      : outcome (scanStage host catalog options summary records) before = (.ok scanned, after))
    : OfScan scanned.errors := by
  obtain ⟨_, _, -, done⟩ := outcome_bind_eq_ok done
  obtain ⟨⟨results, errors⟩, _, spanned, done⟩ := outcome_bind_eq_ok done
  obtain ⟨_, _, -, done⟩ := outcome_bind_eq_ok done
  cases done
  obtain ⟨_, _, inside⟩ := outcome_span_eq_ok spanned
  unfold scanAll at inside
  split at inside
  · exact scanInOrder_errors inside
  · obtain ⟨⟨results, errors⟩, _, ran, inside⟩ := outcome_bind_eq_ok inside
    cases inside
    exact runTasks_errors ran

-----------------------------------------------------------------------------------------
-- The builder of an analysis
-----------------------------------------------------------------------------------------

/-- (approach host program catalog options) is the part of an analysis before the call graph. -/
def approach (host : Host) (program : Program) (catalog : Catalog) (options : AnalysisOptions)
    : Activity Identification := do
  let found ← identifyStage host program catalog options
  let entry := EntryMethod.ofRecords found.records
  log host ⟨.text "entry.synthesized",
    [("signature", .text entry.signature), ("call_count", .ofNat entry.calls.length)]⟩
  log host (.stageStart (.text "callgraph") [])
  return found

/-- (builderOf options records) builds the call graph: the given backend, or the library itself. -/
def builderOf (options : AnalysisOptions) (records : List Record) : Backend :=
  options.backend.getD (.hierarchy [EntryMethod.ofRecords records] options.nodeLimit)

/-- (raisedIn host program catalog options before) is the fault of the builder in an analysis, if it
comes to that.
-/
def raisedIn (host : Host) (program : Program) (catalog : Catalog) (options : AnalysisOptions)
    (before : Session)
    : Option Fault :=
  match outcome (approach host program catalog options) before with
  | (.ok found, start) =>
      CallGraphSummary.raised (builderOf options found.records) host program found.records start
  | (.error _, _) => none

theorem prepare_eq_approach (host : Host) (program : Program) (catalog : Catalog)
    (options : AnalysisOptions)
    : prepare host program catalog options
      = do
          let found ← approach host program catalog options
          let summary ←
            CallGraphSummary.build (builderOf options found.records) host program found.records
          let status := if summary.failed then "error" else "ok"
          log host (.stageEnd (.text "callgraph") (.text status) summary.fields)
          return (found, summary) := by
  simp only [prepare, approach, callGraphStage, bind_assoc, pure_bind]
  rfl

/-- Of a fault the result has the message, and no call graph; all else that it has of the call graph
follows from its summary.
-/
theorem run_builds {result : Analysis}
    (done : outcome (run host program catalog options) before = (.ok result, after))
    : result.callGraph.error
        = (raisedIn host program catalog options before).map Fault.message
      ∧ (result.callGraph.error ≠ none → result.callGraph.graph = none)
      ∧ result.flowStatus = flowStatusOf result.callGraph
      ∧ result.errors.filter StageError.isCallGraph = callGraphErrors result.callGraph := by
  rw [run_eq_prepare_complete, prepare_eq_approach] at done
  obtain ⟨⟨found, summary⟩, _, prepared, completed⟩ := outcome_bind_eq_ok done
  obtain ⟨found, start, reached, prepared⟩ := outcome_bind_eq_ok prepared
  obtain ⟨summary, _, built, prepared⟩ := outcome_bind_eq_ok prepared
  obtain ⟨_, _, -, prepared⟩ := outcome_bind_eq_ok prepared
  cases prepared
  obtain ⟨scanned, _, scan, completed⟩ := outcome_bind_eq_ok completed
  rw [map_eq_pure_bind] at completed
  obtain ⟨sweep, _, -, completed⟩ := outcome_bind_eq_ok completed
  cases completed
  obtain ⟨_, _, also, error, absent⟩ := CallGraphSummary.build_raised found.records start
  cases built.symm.trans also
  refine ⟨?_, absent, rfl, ?_⟩
  · rw [raisedIn, reached]
    exact error
  · have none : scanned.errors.filter StageError.isCallGraph = [] :=
      List.filter_eq_nil_iff.mpr fun error member => by
        simp [scanStage_errors scan error member]
    have all
        : (callGraphErrors summary).filter StageError.isCallGraph = callGraphErrors summary := by
      unfold callGraphErrors
      split
      · split <;> rfl
      · rfl
    dsimp only [concluded]
    rw [List.filter_append, none, all, List.append_nil]

-----------------------------------------------------------------------------------------
-- What is shown of the call graph
-----------------------------------------------------------------------------------------

/-- (EndsCallGraph sign) holds when the event shows the end of the call graph. -/
def EndsCallGraph (sign : Sign) : Prop :=
  sign.type = .text "stage.end" ∧ sign.stage = some (.text "callgraph")

/-- The result has an error of the call graph for each of the messages, and one single event shows
that the call graph ended, and with which status.
-/
structure Shows (result : Analysis) (events : List Event) (messages : List Text) (failed : Bool)
    : Prop where
  errors : result.errors.filter StageError.isCallGraph = messages.map .callGraph
  ended
    : ∃ earlier event later,
        events = earlier ++ event :: later
        ∧ EndsCallGraph event.sign
        ∧ event.sign.status = some (Course.callGraphStatus failed)
        ∧ ∀ other ∈ earlier ++ later, ¬ EndsCallGraph other.sign

/-- Stages that begin, and those of another name, do not end the call graph. -/
theorem opens_not_endsCallGraph (name : Text) : ¬ EndsCallGraph (Sign.opens name) := by
  rintro ⟨type, -⟩
  injection type with type
  injection type with type
  exact absurd type (by decide)

theorem closes_not_endsCallGraph {name : Text} (other : name ≠ "callgraph") (status : Json)
    : ¬ EndsCallGraph (Sign.closes name status) := by
  rintro ⟨-, ⟨⟩⟩
  exact other rfl

theorem ofStage_not_endsCallGraph (name : Text) (other : name ≠ "callgraph") (status : Json)
    : ∀ sign ∈ Sign.ofStage name status, ¬ EndsCallGraph sign := by
  simp [Sign.ofStage, opens_not_endsCallGraph, closes_not_endsCallGraph other]

theorem sweeping_not_endsCallGraph (course : Course)
    : ∀ sign ∈ course.sweeping, ¬ EndsCallGraph sign := by
  unfold Course.sweeping
  split
  · exact ofStage_not_endsCallGraph "project_sweep" (by decide) _
  · simp

/-- On every course the call graph ends once. -/
theorem analyzing_ended {course : Course} {events : List Event}
    (told : events.map Event.sign = course.analyzing)
    : ∃ earlier event later,
        events = earlier ++ event :: later
        ∧ EndsCallGraph event.sign
        ∧ event.sign.status = some (Course.callGraphStatus course.callGraphFailed)
        ∧ ∀ other ∈ earlier ++ later, ¬ EndsCallGraph other.sign := by
  have parted
      : course.analyzing
        = [Sign.opens "identify", Sign.closes "identify" (.text "ok"), Course.note,
              Sign.opens "callgraph"]
            ++ Sign.closes "callgraph" (Course.callGraphStatus course.callGraphFailed)
              :: (Sign.ofStage "scan" (endStatus course.scanStopped) ++ course.sweeping) :=
    rfl
  rw [parted] at told
  obtain ⟨earlier, rest, rfl, before, told⟩ := List.map_eq_append_iff.mp told
  obtain ⟨event, later, rfl, closes, after⟩ := List.map_eq_cons_iff.mp told
  refine ⟨earlier, event, later, rfl, ?_, ?_, ?_⟩
  · rw [closes]
    exact ⟨rfl, rfl⟩
  · rw [closes]
    rfl
  · have note : ¬ EndsCallGraph Course.note := fun ends => nomatch ends.2
    have scan :=
      ofStage_not_endsCallGraph "scan" (by decide) (endStatus course.scanStopped)
    intro other member
    have signed : other.sign ∈ earlier.map Event.sign ++ later.map Event.sign := by
      rw [← List.map_append]
      exact List.mem_map_of_mem member
    rw [before, after] at signed
    rcases List.mem_append.mp signed with early | late
    · simp only [List.mem_cons, List.not_mem_nil, or_false] at early
      rcases early with same | same | same | same <;> rw [same]
      · exact opens_not_endsCallGraph _
      · exact closes_not_endsCallGraph (by decide) _
      · exact note
      · exact opens_not_endsCallGraph _
    · exact (List.mem_append.mp late).elim (scan _) (sweeping_not_endsCallGraph course _)

/-- (heard raised) is the message of a fault, if it says something. -/
def heard (raised : Option Fault) : List Text :=
  (raised.map Fault.message).toList.filter (!·.isEmpty)

theorem heard_some (fault : Fault)
    : heard (some fault) = if fault.message = "" then [] else [fault.message] := by
  have same := Text.isEmpty_iff (s := fault.message)
  cases silent : fault.message.isEmpty <;> simp_all [heard]

/-- A summary is told by what is heard of its message. -/
theorem callGraphErrors_heard {summary : CallGraphSummary} {raised : Option Fault}
    (error : summary.error = raised.map Fault.message)
    : callGraphErrors summary = (heard raised).map .callGraph
      ∧ summary.failed = !(heard raised).isEmpty := by
  rw [callGraphErrors, CallGraphSummary.failed, heard, error]
  cases raised with
  | none => exact ⟨rfl, rfl⟩
  | some fault => cases silent : fault.message.isEmpty <;> simp [silent]

/-- A result shows what was heard of the builder. -/
theorem run_shows {result : Analysis}
    (done : outcome (run host program catalog options) before = (.ok result, after))
    : ∃ events,
        after.events = before.events ++ events
        ∧ Shows result events (heard (raisedIn host program catalog options before))
            (!(heard (raisedIn host program catalog options before)).isEmpty) := by
  obtain ⟨error, -, -, errors⟩ := run_builds done
  obtain ⟨messages, failed⟩ := callGraphErrors_heard error
  obtain ⟨-, events, ⟨logged, -⟩, told⟩ := tells_run program catalog options before trivial
  rw [show Effect.outcome (run host program catalog options) before = _ from done] at logged told
  have ended := analyzing_ended told.1
  exact ⟨events, logged, errors.trans messages, failed ▸ ended⟩

-----------------------------------------------------------------------------------------
-- Whole analyses
-----------------------------------------------------------------------------------------

/-- For an obliging host an analysis gives a result, also with a sweep. -/
theorem run_ends_obliged (texts : catalog.PatternsAreTexts) (accepting : host.Accepting)
    (obliging : host.Obliging) (program : Program) (fair : options.Fair) (before : Session)
    : ∃ result after, outcome (run host program catalog options) before = (.ok result, after) := by
  obtain ⟨_, found, summary, middle, prepared, -⟩ :=
    prepare_isolated texts accepting program options before
  obtain ⟨results, errors, scanned, completed, -⟩ :=
    complete_told accepting program catalog fair found summary middle
  rw [run_eq_prepare_complete, outcome_bind_ok prepared, completed, outcome_map, sweepIfAsked]
  split
  · obtain ⟨started, ended, -⟩ := sweepStage_ok accepting program options scanned
    obtain ⟨sweep, swept, ran⟩ :=
      Sweep.run_obliged obliging program options.skipTestFiles.truthy started
    obtain ⟨after, staged⟩ := ended sweep swept ran
    rw [outcome_map, staged]
    exact ⟨_, after, rfl⟩
  · exact ⟨_, scanned, rfl⟩

/-- An analysis gives a result unless its sweep fails. If the builder failed, the result has no call
graph and no flows were looked for; there is an error, and the stage of the call graph ends with
one, exactly if the message of the fault is not empty. With an empty message it shows the same as if
the builder had not failed: no error, and a stage that ended well.
-/
theorem run_showsFailure_iff (texts : catalog.PatternsAreTexts) (accepting : host.Accepting)
    (program : Program) (fair : options.Fair) (before : Session)
    : (options.scope = .lifecycle ∨ host.Obliging
        → ∃ result after, outcome (run host program catalog options) before = (.ok result, after))
      ∧ ∀ result after,
          outcome (run host program catalog options) before = (.ok result, after)
          → ∃ events,
              after.events = before.events ++ events
              ∧ (∀ fault,
                  raisedIn host program catalog options before = some fault
                  → result.callGraph.graph = none
                    ∧ result.flowStatus = "skipped"
                    ∧ (Shows result events [fault.message] true ↔ fault.message ≠ "")
                    ∧ (fault.message = "" → Shows result events [] false))
              ∧ (raisedIn host program catalog options before = none
                → Shows result events [] false) := by
  constructor
  · rintro (lifecycle | obliging)
    · exact run_ends texts accepting program fair lifecycle before
    · exact run_ends_obliged texts accepting obliging program fair before
  · intro result after done
    obtain ⟨error, absent, status, errors⟩ := run_builds done
    obtain ⟨events, logged, shows⟩ := run_shows done
    refine ⟨events, logged, fun fault raised => ?_, fun quiet => ?_⟩
    · rw [raised] at error shows
      have absent := absent (by simp [error])
      refine ⟨absent, by rw [status, flowStatusOf, absent]; rfl, ?_⟩
      rw [heard_some] at shows
      by_cases silent : fault.message = ""
      · rw [if_pos silent] at shows
        refine ⟨iff_of_false (fun loud => ?_) (fun some => some silent), fun _ => shows⟩
        cases shows.errors.symm.trans loud.errors
      · rw [if_neg silent] at shows
        exact ⟨iff_of_true shows silent, fun none => absurd none silent⟩
    · rwa [quiet] at shows

/-- (crashing message) is a builder that fails with the message when it is to build a call graph. -/
def crashing (message : Text) : Backend :=
  .external (fun _ => .ok true) fun _ => .error (.collaborator message)

/-- (crashingOptions scope message) asks for an analysis with this builder. -/
def crashingOptions (scope : Scope) (message : Text) : AnalysisOptions :=
  ⟨.bool true, 1, none, scope, some (crashing message), List.range⟩

theorem crashingOptions_fair (scope : Scope) (message : Text)
    : (crashingOptions scope message).Fair :=
  fun tasks => .refl (List.range tasks)

/-- A builder that says why it failed is heard. -/
theorem run_showsFailure_crashing
    : Catalog.standard.PatternsAreTexts
      ∧ Host.willing.Accepting
      ∧ (crashingOptions .lifecycle "builder crashed").Fair
      ∧ ∃ result after,
          outcome
              (run .willing (.ofFiles [⟨"a.ets", [abilityNamed "A"]⟩]) .standard
                (crashingOptions .lifecycle "builder crashed"))
              .fresh
            = (.ok result, after)
          ∧ result.callGraph.graph = none
          ∧ result.flowStatus = "skipped"
          ∧ Shows result after.events ["builder crashed"] true := by
  have accepting : Host.willing.Accepting := fun _ => rfl
  have fair := crashingOptions_fair .lifecycle "builder crashed"
  obtain ⟨ends, shows⟩ := run_showsFailure_iff Catalog.standard_texts accepting
    (.ofFiles [⟨"a.ets", [abilityNamed "A"]⟩]) fair .fresh
  obtain ⟨result, after, done⟩ := ends (.inl rfl)
  obtain ⟨events, logged, raised, -⟩ := shows result after done
  obtain ⟨absent, skipped, loud, -⟩ := raised (.collaborator "builder crashed") rfl
  refine ⟨Catalog.standard_texts, accepting, fair, result, after, done, absent, skipped, ?_⟩
  rw [logged]
  exact loud.mpr (by decide)

/-- A builder that fails without a word is not heard: there is no call graph, and yet no error, and
the stage ended well. One that says why it failed is not heard, either, if the analysis fails in its
sweep after that.
-/
theorem run_hidesFailure
    : (∃ result after,
        outcome
            (run .willing (.ofFiles [⟨"a.ets", [abilityNamed "A"]⟩]) .standard
              (crashingOptions .lifecycle ""))
            .fresh
          = (.ok result, after)
        ∧ raisedIn .willing (.ofFiles [⟨"a.ets", [abilityNamed "A"]⟩]) .standard
            (crashingOptions .lifecycle "") .fresh
          = some (.collaborator "")
        ∧ result.callGraph.graph = none
        ∧ result.flowStatus = "skipped"
        ∧ Shows result after.events [] false)
      ∧ (outcome
            (run withholding (.ofFiles [⟨"a.ets", [abilityNamed "A", abilityNamed "B"]⟩]) .standard
              (crashingOptions .project "builder crashed"))
            .fresh).1
        = .error (.collaborator "list_methods failed for A") := by
  have accepting : Host.willing.Accepting := fun _ => rfl
  constructor
  · obtain ⟨result, after, done⟩ := run_ends Catalog.standard_texts accepting
      (.ofFiles [⟨"a.ets", [abilityNamed "A"]⟩]) (crashingOptions_fair .lifecycle "") rfl .fresh
    obtain ⟨error, absent, status, -⟩ := run_builds done
    obtain ⟨events, logged, shows⟩ := run_shows done
    have raised
        : raisedIn .willing (.ofFiles [⟨"a.ets", [abilityNamed "A"]⟩]) .standard
            (crashingOptions .lifecycle "") .fresh
          = some (.collaborator "") :=
      rfl
    rw [raised] at error shows
    have absent := absent (by simp [error])
    refine ⟨result, after, done, raised, absent, by rw [status, flowStatusOf, absent]; rfl, ?_⟩
    rw [logged]
    exact shows
  · exact (run_swept Catalog.standard_texts (fun _ => rfl) (fun _ => rfl) withholding_steady _ rfl
      (crashingOptions_fair .project "builder crashed") .fresh).2 _ rfl

end Analysis

end ArkLifecycle
