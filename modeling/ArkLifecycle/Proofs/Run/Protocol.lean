import ArkLifecycle.Proofs.Analysis.Course
import ArkLifecycle.Proofs.EventLog.Lines
import ArkLifecycle.Proofs.Run.Artifacts

/-! The protocol that the event log of a run follows.

The first event says that the run starts and the last one how it ended. Between them stand the
stages, each closed before the next one is opened; of a run that fails they are a beginning. All of
this is in the file of the log when it is over.
-/

namespace ArkLifecycle

open Effect FileTree

variable {plan : RunPlan} {path : Path} {settings : Json} {request : RunRequest} {stamp : RunStamp}

-----------------------------------------------------------------------------------------
-- Courses of runs
-----------------------------------------------------------------------------------------

/-- (Course.working course) is what a run shows from its first stage to its last one. -/
def Course.working (course : Course) : List Sign :=
  Sign.ofStage "load" (.text "ok") ++ (course.analyzing ++ Sign.ofStage "report" (.text "ok"))

namespace Sign

/-- (begins) is shown first. -/
def begins : Sign :=
  ⟨.text "run.start", none, none⟩

/-- (ends status) is shown last. -/
def ends (status : Json) : Sign :=
  ⟨.text "run.end", none, some status⟩

/-- The sign looks neither like the first one nor like the last one. -/
def Inner (sign : Sign) : Prop :=
  sign.type ≠ .text "run.start" ∧ sign.type ≠ .text "run.end"

end Sign

namespace Run

/-- (scopeOf conf) is the scope that the settings ask for. -/
def scopeOf (conf : Json) : Except Fault Scope := do
  Scope.ofJson (← conf.fieldD "scope" (.text "lifecycle"))

/-- (sweeps plan) says that the settings ask for a sweep of the project. -/
def sweeps (plan : RunPlan) : Prop :=
  scopeOf plan.conf = .ok .project

theorem scopeOf_of_options {conf : Json} {options : AnalysisOptions}
    (asked : optionsOf conf request = .ok options)
    : scopeOf conf = .ok options.scope := by
  obtain ⟨skipTestFiles, -, asked⟩ := bind_eq_ok asked
  obtain ⟨workers, asked⟩
      : ∃ workers : Json,
          (do
            let nodeLimit ← conf.fieldD "max_callgraph_nodes" .null
            let scope ← conf.fieldD "scope" (.text "lifecycle")
            AnalysisOptions.of scope workers skipTestFiles
              (if nodeLimit.shape = .null then none else some nodeLimit) none)
            = Except.ok options := by
    split at asked
    · exact ⟨request.workers, asked⟩
    · obtain ⟨workers, -, asked⟩ := bind_eq_ok asked
      exact ⟨workers, asked⟩
  obtain ⟨nodeLimit, -, asked⟩ := bind_eq_ok asked
  obtain ⟨written, given, asked⟩ := bind_eq_ok asked
  obtain ⟨scope, known, asked⟩ := bind_eq_ok asked
  obtain ⟨count, -, asked⟩ := bind_eq_ok asked
  cases asked
  rw [scopeOf, given]
  exact known

/-- (Protocol swept kept result signs) is what the events of a whole run show. A run that gives a
report took the course of the analysis that it keeps, and says whether that was stopped. A run that
fails says so, after a beginning of some course.
-/
inductive Protocol (swept : Prop) (kept : Option Analysis)
    : Except Fault Json → List Sign → Prop
  | finished {report} (analysis : Analysis) (has : kept = some analysis)
      (fits : (Course.of analysis).Fits swept)
    : Protocol swept kept (.ok report)
        (.begins
          :: ((Course.of analysis).working ++ [.ends (Analysis.endStatus analysis.cancelled)]))
  | failed {fault done} (course : Course) (fits : course.Fits swept)
      (part : done <+: course.working)
    : Protocol swept kept (.error fault) (.begins :: (done ++ [.ends (.text "error")]))

/-- No stage looks like the beginning of a run, or like its end. -/
theorem inner_of_mem_working (course : Course) : ∀ sign ∈ course.working, sign.Inner := by
  have differ {type other : Text} (texts : type ≠ other) : Json.text type ≠ Json.text other := by
    rintro ⟨⟩
    exact texts rfl
  have stage (name : Text) (status : Json) : ∀ sign ∈ Sign.ofStage name status, sign.Inner := by
    rw [Sign.ofStage, List.forall_mem_cons, List.forall_mem_singleton]
    exact ⟨⟨differ (by decide), differ (by decide)⟩, differ (by decide), differ (by decide)⟩
  have note : Course.note.Inner := ⟨differ (by decide), differ (by decide)⟩
  have sweeping : ∀ sign ∈ course.sweeping, sign.Inner := by
    unfold Course.sweeping
    split
    · exact stage _ _
    · exact fun _ none => nomatch none
  simp only [Course.working, Course.analyzing, List.forall_mem_append, List.forall_mem_cons]
  exact ⟨stage _ _, ⟨stage _ _, note, stage _ _, stage _ _, sweeping⟩, stage _ _⟩

/-- The first event and the last one stand nowhere else. -/
theorem Protocol.once {swept : Prop} {kept : Option Analysis} {result : Except Fault Json}
    {signs : List Sign} (follows : Protocol swept kept result signs)
    : ∃ middle status,
        signs = .begins :: (middle ++ [.ends status]) ∧ ∀ sign ∈ middle, sign.Inner := by
  cases follows with
  | finished analysis => exact ⟨_, _, rfl, inner_of_mem_working (.of analysis)⟩
  | failed course _ part =>
      exact ⟨_, _, rfl, fun sign among => inner_of_mem_working course sign (part.subset among)⟩

end Run

-----------------------------------------------------------------------------------------
-- Logs that have a file
-----------------------------------------------------------------------------------------

/-- The plan logs to a file that stands beside the results. What has no line is refused. -/
structure RunPlan.LogsTo (plan : RunPlan) (path : Path) : Prop where
  has : plan.log.path = some path
  beside : path = EventLog.filePath plan.store
  refusing : plan.host.refuse = plan.log.refuses plan.stamp.timestamp

/-- An event of texts has a line, and is accepted. -/
theorem RunPlan.LogsTo.accepts {event : Event} (logs : plan.LogsTo path) (texts : event.OfTexts)
    : ∃ line,
        plan.log.line plan.stamp.timestamp event = .ok line ∧ plan.host.refuse event = none := by
  obtain ⟨line, written⟩ := EventLog.line_eq_ok texts
  rw [logs.refusing]
  exact ⟨line, written, EventLog.refuses_of_line written⟩

/-- (RunPlan.tracking plan path) tells the events that a run has logged; the file has their lines.
-/
def RunPlan.tracking (plan : RunPlan) (path : Path) : Tracking RunState where
  ready state := state.tree.HasFile path
  told before events after :=
    after.session.events = before.session.events ++ events
    ∧ plan.log.Adds plan.stamp.timestamp path before.tree events after.tree
  none state := ⟨by simp, .nil _⟩
  append := by
    rintro first second third events more ⟨begun, added⟩ ⟨ended, later⟩
    exact ⟨by rw [ended, begun, List.append_assoc], added.append later⟩

/-- The plan of a run whose log has a file. -/
theorem Run.prepare_logsTo {host : Host} {before prepared : RunState}
    (planned : outcome (prepare host settings request stamp) before = (.ok plan, prepared))
    (has : plan.log.path = some path)
    : plan.LogsTo path := by
  obtain ⟨subject, base, enabled, -, -, -, rfl⟩ := prepare_eq_ok planned
  refine ⟨has, ?_, rfl⟩
  cases enabled with
  | true => exact (Option.some.inj has).symm
  | false => cases has

/-- No result is called what the log is called. -/
theorem Run.possible_not_log
    : ∀ written ∈ possible,
        (Path.ofText written).names.map Text.asName
          ≠ [Text.asName "observability", Text.asName "run.jsonl"] := by
  decide +kernel

/-- No result stands where the log stands. -/
theorem Run.log_not_mem_resultPlaces (logs : plan.LogsTo path) (analysis : Analysis)
    : location path ∉ resultPlaces plan analysis := by
  rintro ⟨written, among, same⟩
  have observability : Path.ofText "observability" = ⟨"", ["observability"]⟩ :=
    Path.ofText_name (by decide)
  have file : Path.ofText "run.jsonl" = ⟨"", ["run.jsonl"]⟩ := Path.ofText_name (by decide)
  have stands
      : location path
        = location plan.store.root ++ [Text.asName "observability", Text.asName "run.jsonl"] := by
    rw [logs.beside]
    change location ((plan.store.root.join (.ofText "observability")).join (.ofText "run.jsonl"))
      = _
    rw [observability, file, location_join _ (by decide), location_join _ (by decide)]
    simp
  have result
      : location (plan.store.path [written])
        = location plan.store.root ++ (Path.ofText written).names.map Text.asName :=
    location_join _ (possible_descends _ (mem_possible among))
  rw [stands, result] at same
  exact possible_not_log _ (mem_possible among) (List.append_cancel_left same).symm

-----------------------------------------------------------------------------------------
-- What the steps of a run log
-----------------------------------------------------------------------------------------

namespace RunStep

variable {α : Type}

/-- What a part of an analysis logs is written, as the host refuses what has no line. -/
theorem tells_perform {activity : Activity α} {post : Except Fault α → List Sign → Prop}
    (logs : plan.LogsTo path) (tells : Tells plan.host.tracking activity post)
    : Tells (plan.tracking path) (perform plan activity) post := by
  intro before ready
  obtain ⟨-, events, ⟨told, accepted⟩, holds⟩ := tells before.session trivial
  have those : logged activity before.session = events :=
    (congrArg (List.drop before.session.events.length) told).trans List.drop_left
  rw [logs.refusing] at accepted
  obtain ⟨tree, done, still, adds⟩ := EventLog.writeAll_adds logs.has accepted ready
  rw [outcome_perform, those, done]
  exact ⟨still, events, ⟨told, adds⟩, holds⟩

theorem tells_log (logs : plan.LogsTo path) (event : Event)
    : Tells (plan.tracking path) (log plan event) (Logged event.sign) :=
  tells_perform logs (Activity.tells_log event)

theorem tells_span {step : RunStep α} {post : Except Fault α → List Sign → Prop} (host : Host)
    (name : Text) (given : Json.Fields) (tells : Tells (plan.tracking path) step post)
    : Tells (plan.tracking path) (span host name given step) post :=
  fun before => tells { before with session := before.session.openSpan (.text name) }

/-- A step that only changes other files logs nothing. -/
theorem Edits.tells {places : Set (List Text)} {made : List Path} {step : RunStep α}
    (edits : Edits places made step) (plan : RunPlan) (outside : location path ∉ places)
    : Tells (plan.tracking path) step fun _ signs => signs = [] := by
  rintro before ⟨text, read⟩
  have grows := (edits.leaves before).1
  have same : (outcome step before).2.session = before.session :=
    congrArg Prod.fst (edits.keeps before)
  have reads := grows.read outside read
  refine ⟨⟨text, reads⟩, [], ⟨by rw [same, List.append_nil], [], rfl, ?_⟩, rfl⟩
  simp [textAt, read, reads]

/-- An event of texts is written when something can be added to the file. -/
theorem outcome_log_texts {event : Event} {before : RunState} {opened : FileTree}
    (logs : plan.LogsTo path) (texts : event.OfTexts)
    (opens : before.tree.append path "" = .ok opened)
    : ∃ after,
        outcome (log plan event) before = (.ok (), after)
        ∧ after.tree.HasFile path
        ∧ (plan.tracking path).told before [event] after
        ∧ after.analysis = before.analysis := by
  obtain ⟨line, written, accepted⟩ := logs.accepts texts
  obtain ⟨next, added⟩ := append_eq_ok_of_append opens line
  obtain ⟨done, stands, adds⟩ := EventLog.write_adds logs.has written added
  rw [outcome_log_accepted accepted, done]
  exact ⟨_, rfl, stands, ⟨rfl, adds⟩, rfl⟩

/-- An event of texts is not written, and nothing is, when nothing can be added to the file. -/
theorem outcome_log_blocked {event : Event} {before : RunState} {fault : Fault}
    (logs : plan.LogsTo path) (texts : event.OfTexts)
    (blocked : before.tree.append path "" = .error fault)
    : ∃ after,
        outcome (log plan event) before = (.error fault, after) ∧ after.tree = before.tree := by
  obtain ⟨line, written, accepted⟩ := logs.accepts texts
  have failed : outcome (plan.log.write plan.stamp.timestamp event) before.tree
      = (.error fault, before.tree) :=
    EventLog.write_blocked logs.has written (append_eq_error_of_append blocked line)
  rw [outcome_log_accepted accepted, failed]
  exact ⟨_, rfl, rfl⟩

end RunStep

-----------------------------------------------------------------------------------------
-- What the stages of a run log
-----------------------------------------------------------------------------------------

namespace Run

open RunStep

theorem tells_loadStage (logs : plan.LogsTo path)
    : Tells (plan.tracking path) (loadStage plan) (Staged "load" fun _ => .text "ok") := by
  have loads : Edits ∅ []
      (do loadProgram plan.conf (← get).tree plan.modelPath : RunStep Program) :=
    Edits.get.bind fun _ => .lift _
  exact Tells.stage (tells_log logs _)
    (tells_span _ _ _ (loads.tells plan (Set.notMem_empty _))) fun _ => tells_log logs _

theorem tells_reportStage (logs : plan.LogsTo path) (analysis : Analysis)
    : Tells (plan.tracking path) (reportStage plan analysis)
        (Staged "report" fun _ => .text "ok") := by
  let report := reportJson plan analysis
  let writing : RunStep Json :=
    (fun _ => report)
      <$> span plan.host "stage.report" [("stage", .text "report")]
        (writeResults plan analysis report)
  have written := (writeResults_edits plan analysis report).tells plan
    (log_not_mem_resultPlaces logs analysis)
  have silent : Tells (plan.tracking path) writing fun _ signs => signs = [] :=
    (tells_span _ _ _ written).map _
  have staged : Tells (plan.tracking path)
      (do
        log plan (.stageStart (.text "report") [])
        let report ← writing
        log plan <| .stageEnd (.text "report") (.text "ok")
          [("ref", .text (plan.store.reference "report/report.json"))]
        return report)
      (Staged "report" fun _ => .text "ok") :=
    Tells.stage (tells_log logs _) silent fun _ => tells_log logs _
  simp only [writing, bind_map_left] at staged
  exact staged

/-- (Takes swept courseOf shape result signs) is what a task shows that takes a course: the whole of
it, as far as the task goes, or a beginning of one.
-/
def Takes {α : Type} (swept : Prop) (courseOf : α → Course) (shape : Course → List Sign)
    (result : Except Fault α) (signs : List Sign)
    : Prop :=
  match result with
  | .ok value => (courseOf value).Fits swept ∧ signs = shape (courseOf value)
  | .error _ => ∃ course : Course, course.Fits swept ∧ signs <+: shape course

theorem tells_analyze (logs : plan.LogsTo path) (program : Program)
    : Tells (plan.tracking path) (analyze plan request program)
        (Takes (sweeps plan) Course.of Course.analyzing) := by
  let first (result : Except Fault AnalysisOptions) (signs : List Sign) : Prop :=
    optionsOf plan.conf request = result ∧ signs = []
  have asked : Tells (plan.tracking path)
      (liftM (optionsOf plan.conf request) : RunStep AnalysisOptions) first :=
    .lift ⟨rfl, rfl⟩
  refine asked.bind ?_ ?_
  · rintro fault _ ⟨-, rfl⟩
    exact ⟨.stopping false, Course.stopping_fits _ _, List.nil_prefix⟩
  rintro options _ ⟨asked, rfl⟩
  have scope : (options.scope = .project) = sweeps plan := by
    rw [sweeps, scopeOf_of_options asked, Except.ok.injEq]
  refine (tells_perform logs (Analysis.tells_run program plan.catalog options)).bind ?_ ?_
  · rintro fault signs ⟨course, fits, part⟩
    exact ⟨course, scope ▸ fits, part⟩
  rintro analysis _ ⟨rfl, -, fits⟩ before ready
  exact ⟨ready, [], (plan.tracking path).none before, scope ▸ fits, List.append_nil _⟩

/-- (examined plan request) is what the stages do; it gives the analysis beside the report. -/
def examined (plan : RunPlan) (request : RunRequest) : RunStep (Json × Analysis) := do
  let program ← loadStage plan
  let analysis ← analyze plan request program
  return (← reportStage plan analysis, analysis)

theorem stages_eq_examined (plan : RunPlan) (request : RunRequest)
    : stages plan request
      = span plan.host "run" [("model_path", .text plan.modelPath)]
          ((fun given => (given.1, given.2.cancelled)) <$> examined plan request) := by
  simp only [stages, examined, map_bind, map_pure]

/-- The analysis is kept when the report is given. -/
theorem examined_eq_ok {before after : RunState} {report : Json} {analysis : Analysis}
    (done : outcome (examined plan request) before = (.ok (report, analysis), after))
    : after.analysis = some analysis := by
  obtain ⟨program, _, -, done⟩ := outcome_bind_eq_ok done
  obtain ⟨found, middle, analyzed, done⟩ := outcome_bind_eq_ok done
  obtain ⟨written, _, reported, done⟩ := outcome_bind_eq_ok done
  cases done
  exact ((reportStage_keeps plan analysis).same reported).trans (analyze_analysis analyzed)

/-- The stages of a run take the course of its analysis. Witness: the stages in order; a stage that
breaks off leaves a beginning.
-/
theorem tells_examined (logs : plan.LogsTo path) (request : RunRequest)
    : Tells (plan.tracking path) (examined plan request)
        (Takes (sweeps plan) (fun given => Course.of given.2) Course.working) := by
  refine (tells_loadStage logs).bind ?_ ?_
  · intro fault signs broken
    refine ⟨.stopping false, Course.stopping_fits _ _, ?_⟩
    rcases broken.broken with rfl | rfl <;> exact ⟨_, rfl⟩
  rintro program _ rfl
  refine (tells_analyze logs program).bind ?_ ?_
  · rintro fault signs ⟨course, fits, part⟩
    exact ⟨course, fits,
      (List.prefix_append_right_inj _).mpr (part.trans (List.prefix_append _ _))⟩
  rintro analysis _ ⟨fits, rfl⟩
  refine (tells_reportStage logs analysis).bind ?_ ?_
  · intro fault signs broken
    refine ⟨.of analysis, fits, ?_⟩
    rw [Course.working, List.prefix_append_right_inj, List.prefix_append_right_inj]
    exact broken.trans ⟨_, rfl⟩
  rintro report _ rfl
  exact .pure ⟨fits, by simp [Course.working]⟩

/-- What the stages of a run log, and what they keep. -/
theorem stages_take {before after : RunState} {result : Except Fault (Json × Bool)}
    (logs : plan.LogsTo path) (ready : before.tree.HasFile path)
    (done : outcome (stages plan request) before = (result, after))
    : after.tree.HasFile path
      ∧ ∃ events,
          (plan.tracking path).told before events after
          ∧ match result with
            | .ok (_, cancelled) =>
                ∃ analysis,
                  after.analysis = some analysis
                  ∧ cancelled = analysis.cancelled
                  ∧ (Course.of analysis).Fits (sweeps plan)
                  ∧ events.map Event.sign = (Course.of analysis).working
            | .error _ =>
                ∃ course : Course,
                  course.Fits (sweeps plan) ∧ events.map Event.sign <+: course.working := by
  rw [stages_eq_examined] at done
  obtain ⟨ended, inside, rfl⟩ := span_ended done
  rw [map_eq_pure_bind] at inside
  obtain ⟨still, events, told, holds⟩ := tells_examined logs request
    { before with session := before.session.openSpan (.text "run") } ready
  rcases given : outcome (examined plan request)
    { before with session := before.session.openSpan (.text "run") } with
      ⟨fault | ⟨report, analysis⟩, middle⟩
  · rw [outcome_bind_error given] at inside
    rw [given] at still told holds
    cases inside
    exact ⟨still, events, told, holds⟩
  · rw [outcome_bind_ok given] at inside
    rw [given] at still told holds
    have kept := examined_eq_ok given
    cases inside
    exact ⟨still, events, told, analysis, kept, rfl, holds⟩

-----------------------------------------------------------------------------------------
-- The protocol
-----------------------------------------------------------------------------------------

/-- The first event is one of texts. -/
theorem startEvent_texts (plan : RunPlan) : (startEvent plan).OfTexts :=
  ⟨_, _, rfl, by simp [Json.AllTexts]⟩

/-- The last event is one of texts, however the run ended. -/
theorem endEvent_texts (given : Except Fault (Json × Bool)) : (endEvent given).OfTexts := by
  cases given with
  | ok value => exact ⟨_, _, rfl, by simp [Json.AllTexts, Analysis.endStatus]⟩
  | error fault => exact ⟨_, _, rfl, by simp [Json.AllTexts]⟩

/-- A run that was prepared logs, goes through its stages and logs again. -/
theorem outcome_run_prepared {host : Host} {before prepared : RunState}
    (planned : outcome (prepare host settings request stamp) before = (.ok plan, prepared))
    : outcome (run host settings request stamp) before
      = outcome
          (do
            RunStep.log plan (startEvent plan)
            let result ← attempt (stages plan request)
            RunStep.log plan (endEvent result)
            match result with
            | .ok (report, _) => return report
            | .error fault => throw fault : RunStep Json)
          prepared :=
  outcome_bind_ok planned

/-- A run that can begin its log follows the protocol. Witness: the stages take the course of the
analysis; the events around them are of texts, so both are written.
-/
theorem follows_of_opens {host : Host} {before prepared after : RunState} {opened : FileTree}
    {result : Except Fault Json} (logs : plan.LogsTo path)
    (planned : outcome (prepare host settings request stamp) before = (.ok plan, prepared))
    (opens : prepared.tree.append path "" = .ok opened)
    (done : outcome (run host settings request stamp) before = (result, after))
    : ∃ events,
        (plan.tracking path).told prepared events after
        ∧ Protocol (sweeps plan) after.analysis result (events.map Event.sign) := by
  obtain ⟨begun, started, stands, first, -⟩ :=
    outcome_log_texts logs (startEvent_texts plan) opens
  rcases staged : outcome (stages plan request) begun with ⟨given, ended⟩
  obtain ⟨still, events, told, course⟩ := stages_take logs stands staged
  obtain ⟨reopened, reopens⟩ := still.append_eq_ok ""
  obtain ⟨final, closed, -, last, kept⟩ :=
    outcome_log_texts logs (endEvent_texts given) reopens
  rw [outcome_run_prepared planned, outcome_bind_ok started,
    outcome_bind_ok (outcome_attempt _ _), staged, outcome_bind_ok closed] at done
  obtain ⟨rfl, rfl⟩ : after = final ∧ result = given.map Prod.fst := by
    cases given <;> cases done <;> exact ⟨rfl, rfl⟩
  refine ⟨_, (plan.tracking path).append first ((plan.tracking path).append told last), ?_⟩
  rw [List.map_append, List.map_append]
  cases given with
  | ok value =>
      obtain ⟨analysis, found, stopped, fits, shown⟩ := course
      have ends : (endEvent (.ok value)).sign = .ends (Analysis.endStatus analysis.cancelled) := by
        rw [← stopped]
        rfl
      rw [shown, List.map_singleton, List.map_singleton, ends]
      exact .finished analysis (kept.trans found) fits
  | error fault =>
      obtain ⟨course, fits, part⟩ := course
      exact .failed course fits part

/-- A run whose log has a file follows the protocol, and the lines of its events are added to the
file. Nothing is logged when nothing can be added to the file: the run fails with that.
-/
theorem run_followsProtocol {host : Host} {before prepared after : RunState}
    {result : Except Fault Json}
    (planned : outcome (prepare host settings request stamp) before = (.ok plan, prepared))
    (has : plan.log.path = some path)
    (done : outcome (run host settings request stamp) before = (result, after))
    : (∀ fault,
        prepared.tree.append path "" = .error fault
        → result = .error fault ∧ after.tree = prepared.tree)
      ∧ ∀ opened,
          prepared.tree.append path "" = .ok opened
          → ∃ events,
              after.session.events = before.session.events ++ events
              ∧ plan.log.Adds plan.stamp.timestamp path prepared.tree events after.tree
              ∧ Protocol (sweeps plan) after.analysis result (events.map Event.sign) := by
  have logs := prepare_logsTo planned has
  refine ⟨fun fault blocked => ?_, fun opened opens => ?_⟩
  · obtain ⟨_, failed, kept⟩ := outcome_log_blocked logs (startEvent_texts plan) blocked
    rw [outcome_run_prepared planned, outcome_bind_error failed] at done
    cases done
    exact ⟨rfl, kept⟩
  · obtain ⟨events, ⟨told, added⟩, follows⟩ := follows_of_opens logs planned opens done
    have same : prepared.session = before.session :=
      congrArg Prod.fst (prepare_edits.keeps.same planned)
    exact ⟨events, same ▸ told, added, follows⟩

/-- A program with a callback is run, and the run gives a report. -/
theorem run_followsProtocol_besideProgram
    : ∃ report after plan path prepared,
        outcome (run .willing roomless asking stamped) (besideProgram declaring)
          = (.ok report, after)
        ∧ outcome (prepare .willing roomless asking stamped) (besideProgram declaring)
          = (.ok plan, prepared)
        ∧ plan.log.path = some path
        ∧ ∃ events,
            after.session.events = events
            ∧ plan.log.Adds plan.stamp.timestamp path prepared.tree events after.tree
            ∧ Protocol (sweeps plan) after.analysis (.ok report) (events.map Event.sign) := by
  obtain ⟨report, after, done⟩ := run_declaring_ok
  obtain ⟨plan, prepared, planned, -⟩ := outcome_bind_eq_ok done
  obtain ⟨subject, base, logged, -, -, decided, same⟩ := prepare_eq_ok planned
  have enabled : isLogged roomless = .ok true := rfl
  cases enabled.symm.trans decided
  have has : plan.log.path = some (EventLog.filePath plan.store) := by
    rw [same]
    rfl
  obtain ⟨blocked, opens⟩ := run_followsProtocol planned has done
  refine ⟨report, after, plan, _, prepared, done, planned, has, ?_⟩
  -- A log to which nothing can be added would have failed the run.
  cases opened : prepared.tree.append (EventLog.filePath plan.store) "" with
  | error fault => cases (blocked fault opened).1
  | ok tree =>
      obtain ⟨events, told, added, follows⟩ := opens tree opened
      exact ⟨events, told, added, follows⟩

end Run

end ArkLifecycle
