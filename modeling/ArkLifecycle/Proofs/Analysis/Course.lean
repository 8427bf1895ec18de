import ArkLifecycle.Proofs.Analysis.Stages
import ArkLifecycle.Proofs.Session.Signs
import ArkLifecycle.Proofs.Session.Silence

/-! The course that an analysis takes, as its events show it.

The stages follow each other in one order, and each is closed before the next one is opened. An
analysis that fails stops somewhere on such a course.
-/

namespace ArkLifecycle

open Effect Activity

-----------------------------------------------------------------------------------------
-- Courses
-----------------------------------------------------------------------------------------

/-- What can differ between two courses: whether the call graph could not be built, whether the
scan was stopped, and whether the project was swept and the sweep was stopped.
-/
structure Course where
  callGraphFailed : Bool
  scanStopped : Bool
  sweepStopped : Option Bool

namespace Course

/-- (sweeping course) is what the sweep shows, if there is one. -/
def sweeping (course : Course) : List Sign :=
  match course.sweepStopped with
  | some stopped => Sign.ofStage "project_sweep" (Analysis.endStatus stopped)
  | none => []

/-- (note) is shown when the virtual entry method has been made. -/
def note : Sign :=
  ⟨.text "entry.synthesized", none, none⟩

/-- (callGraphStatus failed) is the word for how the building of the call graph ended. -/
def callGraphStatus (failed : Bool) : Json :=
  .text (.ofString (if failed then "error" else "ok"))

/-- (analyzing course) is what an analysis shows from its first stage to its last one. -/
def analyzing (course : Course) : List Sign :=
  Sign.ofStage "identify" (.text "ok")
    ++ (note
      :: (Sign.ofStage "callgraph" (callGraphStatus course.callGraphFailed)
        ++ (Sign.ofStage "scan" (Analysis.endStatus course.scanStopped) ++ course.sweeping)))

/-- (of analysis) is the course that an analysis took. It was stopped in its last stage, if it was
stopped at all.
-/
def of (analysis : Analysis) : Course where
  callGraphFailed := analysis.callGraph.failed
  scanStopped := analysis.sweep.isNone && analysis.cancelled
  sweepStopped := analysis.sweep.map Sweep.cancelled

/-- The project is swept exactly when that is in scope and the scan was not stopped. -/
def Fits (course : Course) (swept : Prop) : Prop :=
  course.sweepStopped.isSome = true ↔ swept ∧ course.scanStopped = false

/-- (stopping failed) is a course that ends with a scan that was stopped. -/
def stopping (callGraphFailed : Bool) : Course :=
  ⟨callGraphFailed, true, none⟩

theorem stopping_fits (callGraphFailed : Bool) (swept : Prop)
    : (stopping callGraphFailed).Fits swept := by
  simp [Fits, stopping]

end Course

-----------------------------------------------------------------------------------------
-- Events of activities
-----------------------------------------------------------------------------------------

/-- (Host.tracking host) tells the events that a session has logged; the host accepted all of them.
-/
def Host.tracking (host : Host) : Tracking Session where
  ready _ := True
  told before events after :=
    after.events = before.events ++ events ∧ ∀ event ∈ events, host.refuse event = none
  none _ := by simp
  append := by
    rintro first second third events more ⟨begun, accepted⟩ ⟨ended, later⟩
    refine ⟨by rw [ended, begun, List.append_assoc], fun event member => ?_⟩
    exact (List.mem_append.mp member).elim (accepted event) (later event)

namespace Activity

variable {α : Type} {host : Host}

/-- An event that is accepted is logged, and one that is refused is not. -/
theorem tells_log (event : Event) : Tells host.tracking (log host event) (Logged event.sign) := by
  intro before _
  refine ⟨trivial, ?_⟩
  cases decided : host.refuse event with
  | none =>
      have done : Effect.outcome (log host event) before = (.ok (), before.logEvent event) := by
        rw [log, decided]
        rfl
      rw [done]
      exact ⟨[event], ⟨rfl, by simpa using decided⟩, rfl⟩
  | some fault =>
      have failed : Effect.outcome (log host event) before = (.error fault, before) := by
        rw [log, decided]
        rfl
      rw [failed]
      exact ⟨[], ⟨by simp, by simp⟩, rfl⟩

theorem Silent.tells {task : Activity α} (silent : Silent task)
    : Tells host.tracking task fun _ signs => signs = [] :=
  fun before _ => ⟨trivial, [], ⟨by rw [silent before, List.append_nil], by simp⟩, rfl⟩

end Activity

-----------------------------------------------------------------------------------------
-- Stages
-----------------------------------------------------------------------------------------

namespace Analysis

variable {host : Host}

theorem tells_identifyStage (program : Program) (catalog : Catalog) (options : AnalysisOptions)
    : Tells host.tracking (identifyStage host program catalog options)
        (Staged "identify" fun _ => .text "ok") :=
  Tells.stage (tells_log _)
    ((Identification.silent_identify program catalog _).span _ _).tells fun _ => tells_log _

theorem tells_callGraphStage (program : Program) (options : AnalysisOptions)
    (entry : SyntheticMethod) (records : List Record)
    : Tells host.tracking (callGraphStage host program options entry records)
        (Staged "callgraph" fun summary => Course.callGraphStatus summary.failed) :=
  Tells.stage (tells_log _) (CallGraphSummary.silent_build _ program records).tells fun _ =>
    tells_log _

theorem tells_scanStage (catalog : Catalog) (options : AnalysisOptions)
    (summary : CallGraphSummary) (records : List Record)
    : Tells host.tracking (scanStage host catalog options summary records)
        (Staged "scan" fun scanned => endStatus scanned.cancelled) := by
  let scanning : Activity Scanned :=
    (fun given => ⟨given.1, given.2, given.1.length < records.length⟩)
      <$> span host "stage.scan" [("stage", .text "scan"), ("workers", .ofNat options.workers)]
        (scanAll host (scanOptionsOf catalog summary) options.workers options.schedule records)
  have silent : Silent scanning :=
    ((silent_scanAll _ _ _ records).span _ _).map _
  have staged : Tells host.tracking
      (do
        log host (.stageStart (.text "scan")
          [("extract_edges", .bool (scanOptionsOf catalog summary).extractFlows)])
        let scanned ← scanning
        log host <| .stageEnd (.text "scan") (endStatus scanned.cancelled) [
          ("analyzed_methods", .ofNat scanned.analyzed),
          ("data_flow_paths", .ofNat scanned.flows.length),
          ("undefined_issues", .ofNat scanned.issues.length)]
        return scanned)
      (Staged "scan" fun scanned => endStatus scanned.cancelled) :=
    Tells.stage (tells_log _) silent.tells fun _ => tells_log _
  simp only [scanning, bind_map_left] at staged
  exact staged

theorem tells_sweepStage (program : Program) (options : AnalysisOptions)
    : Tells host.tracking (sweepStage host program options)
        (Staged "project_sweep" fun sweep => endStatus sweep.cancelled) :=
  Tells.stage (tells_log _) ((Sweep.silent_run program _).span _ _).tells fun _ => tells_log _

/-- The last stage tells whether there is a sweep, and how it ended. -/
theorem tells_sweepIfAsked (program : Program) (options : AnalysisOptions) (scanned : Scanned)
    : Tells host.tracking (sweepIfAsked host program options scanned) fun result signs =>
        match result with
        | .ok sweep =>
            signs = Course.sweeping ⟨false, scanned.cancelled, sweep.map Sweep.cancelled⟩
            ∧ (sweep.isSome = true ↔ options.scope = .project ∧ scanned.cancelled = false)
        | .error _ =>
            (options.scope = .project ∧ scanned.cancelled = false)
            ∧ (signs = [] ∨ signs = [Sign.opens "project_sweep"]) := by
  unfold sweepIfAsked
  split
  · next asked =>
      have swept : options.scope = .project ∧ scanned.cancelled = false := by simpa using asked
      rw [map_eq_pure_bind]
      refine (tells_sweepStage program options).bind (fun _ _ broken => ⟨swept, broken.broken⟩) ?_
      rintro sweep _ rfl
      exact .pure ⟨rfl, by simp [swept]⟩
  · next asked =>
      exact .pure ⟨rfl, by simpa using asked⟩

/-- (ToldBy scope) is what an analysis tells: its whole course, or a beginning of one. -/
def ToldBy (scope : Scope) (result : Except Fault Analysis) (signs : List Sign) : Prop :=
  match result with
  | .ok analysis =>
      signs = (Course.of analysis).analyzing
      ∧ analysis.scope = scope
      ∧ (Course.of analysis).Fits (scope = .project)
  | .error _ => ∃ course : Course, course.Fits (scope = .project) ∧ signs <+: course.analyzing

/-- An analysis tells the course that it takes. Witness: its stages in order; what is told when one
of them breaks off is a beginning of a course that could have followed.
-/
theorem tells_run (program : Program) (catalog : Catalog) (options : AnalysisOptions)
    : Tells host.tracking (run host program catalog options) (ToldBy options.scope) := by
  have stops (failed : Bool) : (Course.stopping failed).Fits (options.scope = .project) :=
    Course.stopping_fits failed _
  refine (tells_identifyStage program catalog options).bind ?_ ?_
  · intro fault signs broken
    rcases broken.broken with rfl | rfl <;> exact ⟨.stopping false, stops false, _, rfl⟩
  rintro found _ rfl
  refine (tells_log _).bind ?_ ?_
  · rintro fault _ rfl
    exact ⟨.stopping false, stops false, _, rfl⟩
  rintro ⟨⟩ _ rfl
  refine (tells_callGraphStage program options _ found.records).bind ?_ ?_
  · intro fault signs broken
    rcases broken.broken with rfl | rfl <;> exact ⟨.stopping false, stops false, _, rfl⟩
  rintro summary _ rfl
  refine (tells_scanStage catalog options summary found.records).bind ?_ ?_
  · intro fault signs broken
    rcases broken.broken with rfl | rfl <;>
      exact ⟨.stopping summary.failed, stops summary.failed, _, rfl⟩
  rintro scanned _ rfl
  refine (tells_sweepIfAsked program options scanned).bind ?_ ?_
  · rintro fault signs ⟨swept, broken⟩
    have fits : Course.Fits ⟨summary.failed, scanned.cancelled, some false⟩
        (options.scope = .project) := by
      simp [Course.Fits, swept]
    rcases broken with rfl | rfl <;> exact ⟨_, fits, _, rfl⟩
  rintro sweep _ ⟨rfl, swept⟩
  have course
      : Course.of (concluded catalog options found summary scanned sweep)
        = ⟨summary.failed, scanned.cancelled, sweep.map Sweep.cancelled⟩ := by
    cases sweep with
    | none => rfl
    | some sweep =>
        obtain ⟨-, going⟩ := swept.mp rfl
        simp [Course.of, concluded, going]
  have told : ToldBy options.scope (.ok (concluded catalog options found summary scanned sweep))
      (Course.analyzing ⟨summary.failed, scanned.cancelled, sweep.map Sweep.cancelled⟩) :=
    ⟨by rw [course], rfl, by rw [course]; simpa [Course.Fits] using swept⟩
  refine .pure ?_
  simp only [List.append_nil]
  exact told

end Analysis

end ArkLifecycle
