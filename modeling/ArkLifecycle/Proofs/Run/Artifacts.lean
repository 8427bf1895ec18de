import ArkLifecycle.Proofs.Run.Preparation

/-! What a run leaves in its output directory.

Until the analysis has given its result the log is the only file. The results that a report lists
are there when the report is, and beside them and the log there is no file.
-/

namespace ArkLifecycle.Run

open Effect FileTree RunStep

variable {host : Host} {settings : Json} {request : RunRequest} {stamp : RunStamp} {plan : RunPlan}
  {analysis : Analysis}

-----------------------------------------------------------------------------------------
-- The results of a run
-----------------------------------------------------------------------------------------

/-- (always) are the results that every analysis has. -/
def always : List Text :=
  ["report/report.json", "dataflow/dataflow.json", "dataflow/dataflow.md",
    "graphs/callgraph.dot", "report/coverage.json"]

/-- (results analysis) are the results of an analysis, as they are called below the root of the run.
-/
def results (analysis : Analysis) : List Text :=
  (artifacts analysis).map Prod.snd

theorem results_eq (analysis : Analysis)
    : results analysis
      = always
        ++ (analysis.callGraph.graph.map fun _ => Text.ofString "graphs/callgraph.json").toList
        ++ (analysis.sweep.map fun _ => Text.ofString "report/project_sweep.json").toList := by
  unfold results artifacts
  cases analysis.callGraph.graph <;> cases analysis.sweep <;> rfl

theorem mem_results_of_always {written : Text} (among : written ∈ always)
    : written ∈ results analysis := by
  rw [results_eq]
  exact List.mem_append_left _ (List.mem_append_left _ among)

/-- (possible) are the results that any analysis can have. -/
def possible : List Text :=
  let sometimes : List Text := ["graphs/callgraph.json", "report/project_sweep.json"]
  always ++ sometimes

theorem mem_possible {written : Text} (among : written ∈ results analysis)
    : written ∈ possible := by
  rw [results_eq] at among
  simp only [possible, List.mem_append, List.mem_cons] at among ⊢
  rcases among with (among | among) | among
  · exact .inl among
  · simp_all
  · simp_all

/-- Every result lies below the root of the run. -/
theorem possible_descends : ∀ written ∈ possible, (Path.ofText written).Descends := by
  decide +kernel

/-- No two results are written at one path. -/
theorem possible_apart
    : ∀ written ∈ possible,
        ∀ other ∈ possible,
          (Path.ofText written).names = (Path.ofText other).names → written = other := by
  decide +kernel

theorem callGraph_mem_results
    : Text.ofString "graphs/callgraph.json" ∈ results analysis
      ↔ analysis.callGraph.graph.isSome := by
  have apart : Text.ofString "graphs/callgraph.json" ∉ always := by decide
  have other
      : Text.ofString "report/project_sweep.json" ≠ Text.ofString "graphs/callgraph.json" := by
    decide
  rw [results_eq]
  simp [apart, other, Option.isSome_iff_exists]

theorem sweep_mem_results
    : Text.ofString "report/project_sweep.json" ∈ results analysis ↔ analysis.sweep.isSome := by
  have apart : Text.ofString "report/project_sweep.json" ∉ always := by decide
  have other
      : Text.ofString "graphs/callgraph.json" ≠ Text.ofString "report/project_sweep.json" := by
    decide
  rw [results_eq]
  simp [apart, other, Option.isSome_iff_exists]

/-- (resultPlaces plan analysis) is where the results of a run stand. -/
def resultPlaces (plan : RunPlan) (analysis : Analysis) : Set (List Text) :=
  { place | ∃ written ∈ results analysis, place = location (plan.store.path [written]) }

/-- A file that is written among the results. -/
theorem result_edits {written : Text} (among : written ∈ results analysis)
    (emission : Emission Unit)
    : Edits (resultPlaces plan analysis) [plan.store.path [written]]
        (edit (FileEdit.writeFile (plan.store.path [written]) emission)) := by
  refine (edit_edits (FileEdit.writeFile_leaves _ _)).mono ?_ (List.Subset.refl _)
  rintro _ rfl
  exact ⟨written, among, rfl⟩

/-- The results are written one after the other, those that an analysis may lack first. -/
theorem writeResults_eq (plan : RunPlan) (analysis : Analysis) (report : Json)
    : writeResults plan analysis report
      = (do
          analysis.callGraph.graph.elim (pure ()) fun graph =>
            writeJson plan "graphs/callgraph.json" graph.toJson
          analysis.sweep.elim (pure ()) fun sweep =>
            writeJson plan "report/project_sweep.json" sweep.toJson
          writeJson plan "report/report.json" report
          writeJson plan "dataflow/dataflow.json"
            (Export.dataFlowJson analysis.listing plan.stamp.timestamp)
          writeText plan "dataflow/dataflow.md"
            (← Export.markdown analysis.listing plan.stamp.timestamp)
          writeText plan "graphs/callgraph.dot" (← Export.dot analysis.records)
          writeJson plan "report/coverage.json" analysis.snapshot.toJson) := by
  unfold writeResults
  cases analysis.callGraph.graph <;> cases analysis.sweep <;>
    simp only [Option.elim, pure_bind]

/-- All results are written, and nothing else is done. -/
theorem writeResults_edits (plan : RunPlan) (analysis : Analysis) (report : Json)
    : Edits (resultPlaces plan analysis)
        ((results analysis).map fun written => plan.store.path [written])
        (writeResults plan analysis report) := by
  have graph : Edits (resultPlaces plan analysis)
      (analysis.callGraph.graph.map fun _ => plan.store.path ["graphs/callgraph.json"]).toList
      (analysis.callGraph.graph.elim (pure ()) fun graph =>
        writeJson plan "graphs/callgraph.json" graph.toJson) := by
    cases built : analysis.callGraph.graph with
    | none => exact .pure ()
    | some graph => exact result_edits (by simp [results_eq, built]) graph.toJson.indented
  have sweep : Edits (resultPlaces plan analysis)
      (analysis.sweep.map fun _ => plan.store.path ["report/project_sweep.json"]).toList
      (analysis.sweep.elim (pure ()) fun sweep =>
        writeJson plan "report/project_sweep.json" sweep.toJson) := by
    cases made : analysis.sweep with
    | none => exact .pure ()
    | some sweep => exact result_edits (by simp [results_eq, made]) sweep.toJson.indented
  have each (written : Text) (among : written ∈ always) (emission : Emission Unit)
      : Edits (resultPlaces plan analysis) [plan.store.path [written]]
          (edit (FileEdit.writeFile (plan.store.path [written]) emission)) :=
    result_edits (mem_results_of_always among) emission
  have written :=
    graph.bind fun _ => sweep.bind fun _ =>
      (each "report/report.json" (by decide) report.indented).bind fun _ =>
      (each "dataflow/dataflow.json" (by decide)
        (Export.dataFlowJson analysis.listing plan.stamp.timestamp).indented).bind fun _ =>
      (Edits.lift (Export.markdown analysis.listing plan.stamp.timestamp)).bind fun text =>
      (each "dataflow/dataflow.md" (by decide) (.write text)).bind fun _ =>
      (Edits.lift (Export.dot analysis.records)).bind fun dot =>
      (each "graphs/callgraph.dot" (by decide) (.write dot)).bind fun _ =>
      each "report/coverage.json" (by decide) analysis.snapshot.toJson.indented
  rw [writeResults_eq]
  refine written.mono (subset_refl _) fun path member => ?_
  simp only [results_eq, always, List.map_append, List.mem_append] at member
  simp only [List.mem_append]
  rcases member with (member | member) | member
  · simp at member ⊢
    grind
  · exact .inl (by simpa using member)
  · exact .inr (.inl (by simpa using member))

/-- (filesOf plan analysis) is where the files of a run may stand. -/
def filesOf (plan : RunPlan) (analysis : Analysis) : Set (List Text) :=
  plan.log.places ∪ resultPlaces plan analysis

/-- The last stage writes the results and logs. -/
theorem reportStage_leaves (plan : RunPlan) (analysis : Analysis)
    : Leaves RunState.tree (filesOf plan analysis)
        ((results analysis).map fun written => plan.store.path [written])
        (reportStage plan analysis) := by
  have logs (event : Event)
      : Leaves RunState.tree (filesOf plan analysis) [] (RunStep.log plan event) :=
    (log_leaves plan event).mono Set.subset_union_left (List.nil_subset _)
  have written :=
    (writeResults_edits plan analysis (reportJson plan analysis)).leaves.mono
      (Set.subset_union_right (s := plan.log.places)) (List.Subset.refl _)
  have staged :=
    (logs (.stageStart (.text "report") [])).bind fun _ =>
    (span_leaves plan.host "stage.report" [("stage", .text "report")] written).bind fun _ =>
    (logs (.stageEnd (.text "report") (.text "ok")
      [("ref", .text (plan.store.reference "report/report.json"))])).bind fun _ =>
    Leaves.pure (reportJson plan analysis)
  exact staged.mono (subset_refl _) (by simp)

theorem reportStage_keeps (plan : RunPlan) (analysis : Analysis)
    : Keeps RunState.analysis (reportStage plan analysis) := by
  have written : Keeps RunState.analysis (writeResults plan analysis (reportJson plan analysis)) :=
    fun before => congrArg Prod.snd ((writeResults_edits plan analysis _).keeps before)
  exact (log_keeps _ _).bind fun _ => (span_keeps _ _ _ written).bind fun _ =>
    (log_keeps _ _).bind fun _ => .pure _

/-- The last stage gives the report. -/
theorem reportStage_eq_ok {before after : RunState} {report : Json}
    (done : outcome (reportStage plan analysis) before = (.ok report, after))
    : report = reportJson plan analysis := by
  obtain ⟨_, _, -, done⟩ := outcome_bind_eq_ok done
  obtain ⟨_, _, -, done⟩ := outcome_bind_eq_ok done
  obtain ⟨_, _, -, done⟩ := outcome_bind_eq_ok done
  cases done
  rfl

/-- Loading the program only logs. -/
theorem loadStage_leaves (plan : RunPlan)
    : Leaves RunState.tree plan.log.places [] (loadStage plan) := by
  have logs (event : Event) : Leaves RunState.tree plan.log.places [] (RunStep.log plan event) :=
    (log_leaves plan event).mono (subset_refl _) (List.nil_subset _)
  have got : Leaves RunState.tree plan.log.places [] (get : RunStep RunState) :=
    .still fun _ => rfl
  exact (logs _).bind fun _ =>
    (span_leaves _ _ _ (got.bind fun _ => .lift _)).bind fun _ => (logs _).bind fun _ => .pure _

theorem loadStage_keeps (plan : RunPlan) : Keeps RunState.analysis (loadStage plan) :=
  (log_keeps _ _).bind fun _ =>
    (span_keeps _ _ _ (Keeps.get.bind fun _ => .lift _)).bind fun _ =>
    (log_keeps _ _).bind fun _ => .pure _

/-- The analysis only logs. -/
theorem analyze_leaves (plan : RunPlan) (request : RunRequest) (program : Program)
    : Leaves RunState.tree plan.log.places [] (analyze plan request program) := by
  have kept (analysis : Analysis) : Leaves RunState.tree plan.log.places []
      (modify fun state => { state with analysis := some analysis } : RunStep PUnit) :=
    .still fun _ => rfl
  exact (Leaves.lift _).bind fun _ => (perform_leaves plan _).bind fun analysis =>
    (kept analysis).bind fun _ => .pure analysis

/-- An analysis that gives a result is kept, and one that fails changes nothing. -/
theorem analyze_analysis {request : RunRequest} {program : Program} {before after : RunState}
    {result : Except Fault Analysis}
    (done : outcome (analyze plan request program) before = (result, after))
    : match result with
      | .ok analysis => after.analysis = some analysis
      | .error _ => after.analysis = before.analysis := by
  rw [analyze, outcome_bind, outcome_lift] at done
  cases asked : optionsOf plan.conf request with
  | error fault =>
      rw [asked] at done
      cases done
      rfl
  | ok options =>
      simp only [asked] at done
      rcases performed
        : outcome (perform plan (Analysis.run plan.host program plan.catalog options)) before with
        ⟨fault | analysis, middle⟩
      · rw [outcome_bind_error performed] at done
        cases done
        exact congrArg (fun ended => ended.2.analysis) performed.symm
      · rw [outcome_bind_ok performed] at done
        cases done
        rfl

-----------------------------------------------------------------------------------------
-- How far a run comes
-----------------------------------------------------------------------------------------

/-- (loadAndAnalyze plan request) are the stages of a run up to the result of its analysis. -/
def loadAndAnalyze (plan : RunPlan) (request : RunRequest) : RunStep Analysis :=
  RunStep.span plan.host "run" [("model_path", .text plan.modelPath)] do
    analyze plan request (← loadStage plan)

/-- (untilAnalyzed host settings request stamp) is a run up to the result of its analysis. -/
def untilAnalyzed (host : Host) (settings : Json) (request : RunRequest) (stamp : RunStamp)
    : RunStep Analysis := do
  let plan ← prepare host settings request stamp
  RunStep.log plan (startEvent plan)
  loadAndAnalyze plan request

/-- A part of a run began in one state and ended in another one: either it failed before the
analysis had a result and wrote the log at most, or it has the result, and when it gives a report
all results are written.
-/
inductive Reaches (plan : RunPlan) (before : RunState)
    : Except Fault Analysis → Except Fault Json → RunState → Prop
  | stopped {early fault after} (kept : after.analysis = before.analysis)
      (grows : Grows plan.log.places before.tree after.tree)
    : Reaches plan before (.error early) (.error fault) after
  | analyzed {result after} (analysis : Analysis) (kept : after.analysis = some analysis)
      (grows : Grows (filesOf plan analysis) before.tree after.tree)
      (reported
        : ∀ report,
            result = .ok report
            → report = reportJson plan analysis
              ∧ ∀ written ∈ results analysis, after.tree.HasFile (plan.store.path [written]))
    : Reaches plan before (.ok analysis) result after

theorem stages_reaches {request : RunRequest} {before after : RunState}
    {result : Except Fault (Json × Bool)}
    (done : outcome (stages plan request) before = (result, after))
    : Reaches plan before (outcome (loadAndAnalyze plan request) before).1
        (result.map Prod.fst) after := by
  let first : RunStep Analysis := do analyze plan request (← loadStage plan)
  have inner {start ended : RunState}
      (inside
        : outcome
            (do
              let program ← loadStage plan
              let analysis ← analyze plan request program
              return (← reportStage plan analysis, analysis.cancelled))
            start
          = (result, ended))
      : Reaches plan start (outcome first start).1 (result.map Prod.fst) ended := by
    rcases loaded : outcome (loadStage plan) start with ⟨fault | program, middle⟩
    · rw [outcome_bind_error loaded] at inside ⊢
      cases inside
      exact .stopped ((loadStage_keeps plan).same loaded) ((loadStage_leaves plan).grows loaded)
    rw [outcome_bind_ok loaded] at inside ⊢
    have begun := (loadStage_leaves plan).grows loaded
    rcases analyzed : outcome (analyze plan request program) middle with
      ⟨fault | analysis, second⟩
    · rw [outcome_bind_error analyzed] at inside
      cases inside
      exact .stopped ((analyze_analysis analyzed).trans ((loadStage_keeps plan).same loaded))
        (begun.trans ((analyze_leaves plan request program).grows analyzed))
    rw [outcome_bind_ok analyzed] at inside
    have logged : Grows (filesOf plan analysis) start.tree second.tree :=
      (begun.trans ((analyze_leaves plan request program).grows analyzed)).mono
        Set.subset_union_left
    have kept : second.analysis = some analysis := analyze_analysis analyzed
    rcases reported : outcome (reportStage plan analysis) second with ⟨fault | report, third⟩
    · rw [outcome_bind_error reported] at inside
      cases inside
      exact .analyzed analysis (((reportStage_keeps plan analysis).same reported).trans kept)
        (logged.trans ((reportStage_leaves plan analysis).grows reported))
        (fun _ failed => nomatch failed)
    · rw [outcome_bind_ok reported] at inside
      cases inside
      refine .analyzed analysis (((reportStage_keeps plan analysis).same reported).trans kept)
        (logged.trans ((reportStage_leaves plan analysis).grows reported)) ?_
      rintro _ ⟨⟩
      refine ⟨reportStage_eq_ok reported, fun written among => ?_⟩
      exact (reportStage_leaves plan analysis).hasFile reported (List.mem_map.mpr ⟨_, among, rfl⟩)
  -- The span around the stages changes neither the files nor the result of the analysis.
  obtain ⟨ended, inside, rfl⟩ := span_ended done
  have ends := inner inside
  change Reaches plan before
    (outcome first { before with session := before.session.openSpan (.text "run") }).1 _ _
  generalize (outcome first _).1 = early at ends ⊢
  generalize result.map Prod.fst = given at ends ⊢
  cases ends with
  | stopped kept grows => exact .stopped kept grows
  | analyzed analysis kept grows reported => exact .analyzed analysis kept grows reported

/-- What is done before and after only logs, and may still fail. -/
theorem Reaches.within {before middle ended after : RunState} {early : Except Fault Analysis}
    {given result : Except Fault Json} (reaches : Reaches plan middle early given ended)
    (begun : Grows plan.log.places before.tree middle.tree)
    (untouched : middle.analysis = before.analysis)
    (finished : Grows plan.log.places ended.tree after.tree)
    (kept : after.analysis = ended.analysis)
    (told : ∀ report, result = .ok report → given = .ok report)
    : Reaches plan before early result after := by
  cases reaches with
  | stopped same grows =>
      cases result with
      | ok report => cases told report rfl
      | error fault =>
          exact .stopped (kept.trans (same.trans untouched)) ((begun.trans grows).trans finished)
  | analyzed analysis has grows reported =>
      have wider : plan.log.places ⊆ filesOf plan analysis := Set.subset_union_left
      refine .analyzed analysis (kept.trans has)
        (((begun.mono wider).trans grows).trans (finished.mono wider)) fun report gave => ?_
      obtain ⟨same, written⟩ := reported report (told report gave)
      exact ⟨same, fun one among => (written one among).grow finished⟩

/-- A run that was prepared comes as far as its stages; when it gives a report its log is there. -/
theorem run_reaches {request : RunRequest} {before prepared after : RunState}
    {result : Except Fault Json}
    (planned : outcome (prepare host settings request stamp) before = (.ok plan, prepared))
    (done : outcome (run host settings request stamp) before = (result, after))
    : Reaches plan before (outcome (untilAnalyzed host settings request stamp) before).1 result
        after
      ∧ ∀ report, result = .ok report → ∀ path ∈ plan.log.path, after.tree.HasFile path := by
  have made : Grows plan.log.places before.tree prepared.tree :=
    (prepare_edits.leaves.grows planned).mono (Set.empty_subset _)
  have untouched : prepared.analysis = before.analysis :=
    congrArg Prod.snd (prepare_edits.keeps.same planned)
  rw [run, outcome_bind_ok planned] at done
  rw [untilAnalyzed, outcome_bind_ok planned]
  rcases started : outcome (RunStep.log plan (startEvent plan)) prepared with ⟨fault | ⟨⟩, begun⟩
  · rw [outcome_bind_error started] at done ⊢
    cases done
    exact ⟨.stopped (((log_keeps plan _).same started).trans untouched)
      (made.trans ((log_leaves plan _).grows started)), fun _ failed => nomatch failed⟩
  rw [outcome_bind_ok started] at done ⊢
  rcases staged : outcome (stages plan request) begun with ⟨given, ended⟩
  rw [outcome_bind_ok (outcome_attempt _ _), staged] at done
  rcases closed : outcome (RunStep.log plan (endEvent given)) ended with ⟨closing, final⟩
  have ending
      : after = final
        ∧ ∀ report, result = .ok report → given.map Prod.fst = .ok report ∧ closing = .ok () := by
    cases closing with
    | error fault =>
        rw [outcome_bind_error closed] at done
        cases done
        exact ⟨rfl, fun _ failed => nomatch failed⟩
    | ok =>
        rw [outcome_bind_ok closed] at done
        cases given with
        | error fault =>
            cases done
            exact ⟨rfl, fun _ failed => nomatch failed⟩
        | ok value =>
            cases done
            exact ⟨rfl, fun report gave => ⟨gave, rfl⟩⟩
  obtain ⟨rfl, told⟩ := ending
  refine ⟨(stages_reaches staged).within (made.trans ((log_leaves plan _).grows started))
    (((log_keeps plan _).same started).trans untouched) ((log_leaves plan _).grows closed)
    ((log_keeps plan _).same closed) fun report gave => (told report gave).1, ?_⟩
  intro report gave path has
  obtain ⟨-, rfl⟩ := told report gave
  exact (log_leaves plan _).hasFile closed (by simpa using has)

-----------------------------------------------------------------------------------------
-- The output directory
-----------------------------------------------------------------------------------------

/-- (storeOf tree settings request stamp) is where the results of a run are kept. -/
def storeOf (tree : FileTree) (settings : Json) (request : RunRequest) (stamp : RunStamp)
    : Except Fault ArtifactStore := do
  let subject ← settle tree settings request
  return storeFor stamp (← basePath subject.conf request) subject

/-- The files below the directory of an analysis are those that a report lists, and the log. The
call graph and the sweep of the project are listed if they were made.
-/
structure Delivers (store : ArtifactStore) (logged : Bool) (analysis : Analysis)
    (listed : List (Text × Text)) (tree : FileTree)
    : Prop where
  exist : ∀ entry ∈ listed, tree.HasFile (store.analysisRoot.joinText entry.2)
  only
    : ∀ place,
        location store.analysisRoot <+: place
        → (tree.IsFile place
          ↔ (∃ entry ∈ listed, place = location (store.analysisRoot.joinText entry.2))
            ∨ logged = true ∧ place = location (EventLog.filePath store))
  callGraph
    : (∃ name, (name, store.reference "graphs/callgraph.json") ∈ listed)
      ↔ analysis.callGraph.graph.isSome
  sweep
    : (∃ name, (name, store.reference "report/project_sweep.json") ∈ listed)
      ↔ analysis.sweep.isSome

/-- What a run leaves behind. When nothing can be settled, nothing is made. When it fails before its
analysis has a result, the log is the only new file, whatever was kept before; otherwise it keeps
that result. When it gives a report, the files are those that the report lists, and the log.
-/
structure LeavesBehind (host : Host) (settings : Json) (request : RunRequest) (stamp : RunStamp)
    (before : RunState) (result : Except Fault Json) (after : RunState)
    : Prop where
  unsettled
    : ∀ fault,
        settle before.tree settings request = .error fault
        → result = .error fault ∧ after = before
  stopped
    : ∀ early,
        (outcome (untilAnalyzed host settings request stamp) before).1 = .error early
        → (∃ fault, result = .error fault)
          ∧ after.analysis = before.analysis
          ∧ ∀ place,
              after.tree.IsFile place
              → before.tree.IsFile place
                ∨ ∃ store,
                    storeOf before.tree settings request stamp = .ok store
                    ∧ isLogged settings = .ok true
                    ∧ place = location (EventLog.filePath store)
  analyzed
    : ∀ analysis,
        (outcome (untilAnalyzed host settings request stamp) before).1 = .ok analysis
        → after.analysis = some analysis
  reported
    : ∀ report,
        result = .ok report
        → ∃ store logged analysis listed,
            storeOf before.tree settings request stamp = .ok store
            ∧ isLogged settings = .ok logged
            ∧ after.analysis = some analysis
            ∧ report.part "artifacts"
              = .ok (.object (listed.map fun (name, ref) => (.text name, .text ref)))
            ∧ Delivers store logged analysis listed after.tree

/-- (listed plan analysis) are the results as a report lists them. -/
def listed (plan : RunPlan) (analysis : Analysis) : List (Text × Text) :=
  (artifacts analysis).map fun artifact => (artifact.1, plan.store.reference artifact.2)

theorem part_reportJson (plan : RunPlan) (analysis : Analysis)
    : (reportJson plan analysis).part "artifacts"
      = .ok (.object ((listed plan analysis).map fun (name, ref) => (.text name, .text ref))) := by
  have origin : listed plan analysis
      = (artifacts analysis).map fun (name, place) => (name, plan.store.reference place) := rfl
  rw [origin, List.map_map]
  rfl

theorem mem_places_logFor {store : ArtifactStore} {logged : Bool} {place : List Text}
    : place ∈ (logFor store logged).places
      ↔ logged = true ∧ place = location (EventLog.filePath store) := by
  cases logged with
  | false => simp [EventLog.places, logFor, EventLog.silent]
  | true => simp [EventLog.places, logFor]

/-- A result is listed if it is one of the analysis. Witness: no other result has its reference. -/
theorem exists_mem_listed_iff {name written : Text} (run : plan.store.runId = some name)
    (is : name.IsFileName) (among : written ∈ possible)
    : (∃ title, (title, plan.store.reference written) ∈ listed plan analysis)
      ↔ written ∈ results analysis := by
  constructor
  · rintro ⟨title, member⟩
    obtain ⟨artifact, entry, same⟩ := List.mem_map.mp member
    have result : artifact.2 ∈ results analysis := List.mem_map.mpr ⟨artifact, entry, rfl⟩
    have names := ArtifactStore.names_eq_of_reference run is
      (possible_descends _ (mem_possible result)) (possible_descends _ among)
      (Prod.mk.inj same).2
    exact possible_apart _ (mem_possible result) _ among names ▸ result
  · intro result
    obtain ⟨artifact, entry, rfl⟩ := List.mem_map.mp result
    exact ⟨artifact.1, List.mem_map.mpr ⟨artifact, entry, rfl⟩⟩

/-- The files below the directory of an analysis, where there was none before, are the listed ones
and the log.
-/
theorem delivers_of_written {base : Path} {subject : RunSubject} {logged : Bool}
    {before after : FileTree} (named : stamp.runId.IsFileName) (is : subject.analysisId.IsFileName)
    (planned : plan = planFor host stamp base subject logged)
    (vacant : ∀ place, location base <+: place → ¬ before.IsFile place)
    (grows : Grows (filesOf plan analysis) before after)
    (written : ∀ written ∈ results analysis, after.HasFile (plan.store.path [written]))
    (logs : ∀ path ∈ plan.log.path, after.HasFile path)
    : Delivers plan.store logged analysis (listed plan analysis) after := by
  have run : plan.store.runId = some stamp.runId := by rw [planned]; rfl
  have refers {artifact : Text × Text} (entry : artifact ∈ artifacts analysis)
      : artifact.2 ∈ results analysis
        ∧ plan.store.analysisRoot.joinText (plan.store.reference artifact.2)
          = plan.store.path [artifact.2] := by
    have result : artifact.2 ∈ results analysis := List.mem_map.mpr ⟨artifact, entry, rfl⟩
    exact ⟨result, ArtifactStore.joinText_reference run named
      (possible_descends _ (mem_possible result))⟩
  have exist : ∀ entry ∈ listed plan analysis,
      after.HasFile (plan.store.analysisRoot.joinText entry.2) := by
    intro entry member
    obtain ⟨artifact, among, rfl⟩ := List.mem_map.mp member
    obtain ⟨result, led⟩ := refers among
    exact led ▸ written artifact.2 result
  refine ⟨exist, fun place below => ⟨fun stands => ?_, ?_⟩, ?_, ?_⟩
  · rcases grows.new place stands with old | inLog | ⟨result, among, at_⟩
    · have inside : location base <+: location plan.store.analysisRoot := by
        rw [planned, ArtifactStore.location_analysisRoot is]
        exact List.prefix_append _ _
      exact absurd old (vacant place (inside.trans below))
    · rw [planned] at inLog
      exact .inr (planned ▸ mem_places_logFor.mp inLog)
    · obtain ⟨artifact, entry, rfl⟩ := List.mem_map.mp among
      exact .inl ⟨_, List.mem_map.mpr ⟨artifact, entry, rfl⟩, by rw [at_, (refers entry).2]⟩
  · rintro (⟨entry, member, rfl⟩ | ⟨rfl, rfl⟩)
    · exact (exist entry member).isFile
    · refine (logs (EventLog.filePath plan.store) ?_).isFile
      rw [planned]
      rfl
  · exact (exists_mem_listed_iff run named (by decide +kernel)).trans callGraph_mem_results
  · exact (exists_mem_listed_iff run named (by decide +kernel)).trans sweep_mem_results

/-- The output directory of a run has no file. -/
def Vacant (settings : Json) (request : RunRequest) (stamp : RunStamp) (tree : FileTree) : Prop :=
  ∀ store,
    storeOf tree settings request stamp = .ok store
    → ∀ place, location store.base <+: place → ¬ tree.IsFile place

/-- A run with an empty output directory leaves there what its report says, and without a report no
results. Witness: the steps of a run in order, of which only the last one writes results.
-/
theorem run_leavesBehind (named : stamp.runId.IsFileName) {before after : RunState}
    {result : Except Fault Json} (vacant : Vacant settings request stamp before.tree)
    (done : outcome (run host settings request stamp) before = (result, after))
    : LeavesBehind host settings request stamp before result after := by
  rcases planned : outcome (prepare host settings request stamp) before with
    ⟨fault | plan, prepared⟩
  · have ended : outcome (run host settings request stamp) before = (.error fault, prepared) :=
      outcome_bind_error planned
    have early
        : (outcome (untilAnalyzed host settings request stamp) before).1 = .error fault :=
      congrArg Prod.fst (outcome_bind_error planned)
    rw [ended] at done
    cases done
    constructor
    case unsettled =>
      intro fault unsettled
      rw [run_unsettled unsettled] at ended
      cases ended
      exact ⟨rfl, rfl⟩
    case stopped =>
      exact fun _ _ => ⟨⟨fault, rfl⟩, congrArg Prod.snd (prepare_edits.keeps.same planned),
        fun place stands => .inl
          (((prepare_edits.leaves.grows planned).new place stands).resolve_right id)⟩
    case analyzed => exact fun _ got => nomatch early.symm.trans got
    case reported => exact fun _ gave => nomatch gave
  · obtain ⟨reaches, logs⟩ := run_reaches planned done
    obtain ⟨subject, base, logged, settled, found, decided, rfl⟩ := prepare_eq_ok planned
    have stored : storeOf before.tree settings request stamp
        = .ok (storeFor stamp base subject) := by
      rw [storeOf, settled]
      exact congrArg (· >>= fun base => .ok (storeFor stamp base subject)) found
    generalize reached : (outcome (untilAnalyzed host settings request stamp) before).1 = first
      at reaches
    constructor
    case unsettled =>
      intro fault unsettled
      cases settled.symm.trans unsettled
    case stopped =>
      intro early failed
      cases reached.symm.trans failed
      cases reaches with
      | stopped kept grows =>
          refine ⟨⟨_, rfl⟩, kept, fun place stands =>
            (grows.new place stands).imp_right fun inside => ?_⟩
          obtain ⟨rfl, at_⟩ := mem_places_logFor.mp inside
          exact ⟨_, stored, decided, at_⟩
    case analyzed =>
      intro analysis got
      cases reached.symm.trans got
      cases reaches with
      | analyzed _ kept => exact kept
    case reported =>
      intro report gave
      cases reaches with
      | stopped => cases gave
      | analyzed analysis kept grows reported =>
          obtain ⟨rfl, written⟩ := reported report gave
          exact ⟨_, logged, analysis, listed _ analysis, stored, decided, kept,
            part_reportJson _ analysis,
            delivers_of_written named (analysisId_isFileName settled) rfl (vacant _ stored) grows
              written (logs _ gave)⟩

/-- The output directory that is asked for is the one that is used. -/
theorem base_of_storeOf {tree : FileTree} {written : Text} {store : ArtifactStore}
    (asked : request.outDir = .text written) (truthy : request.outDir.truthy = true)
    (stored : storeOf tree settings request stamp = .ok store)
    : store.base = .ofText written := by
  obtain ⟨subject, -, stored⟩ := bind_eq_ok stored
  obtain ⟨base, found, stored⟩ := bind_eq_ok stored
  cases stored
  rw [basePath, if_pos truthy, asked] at found
  cases found
  rfl

-----------------------------------------------------------------------------------------
-- A run that gives a report
-----------------------------------------------------------------------------------------

/-- (declaring) is a program with one ability that declares one callback. -/
def declaring : Json :=
  .object [("files", .array [.object [
    ("path", .text "a.ets"),
    ("classes", .array [.object [
      ("name", .text "A"),
      ("superclass", .text "UIAbility"),
      ("methods", .array [.object [("name", .text "onCreate")]])]])]])]

/-- (besideProgram program) is the state before a run, when the program's file is the only one. -/
def besideProgram (program : Json) : RunState :=
  let text := match program.compact with
    | .ok text => text
    | .error _ => ""
  ⟨.fresh, ⟨[(["model.json"], .file text)]⟩, none⟩

/-- (roomless) are settings that leave no room for a call graph. -/
def roomless : Json :=
  .object [("analysis", .object [("max_callgraph_nodes", .int 0)])]

/-- (asking) is what is asked for. -/
def asking : RunRequest :=
  ⟨.text "model.json", .text "v1-minimal", .text "out", .null⟩

/-- (stamped) tells the run from others. -/
def stamped : RunStamp :=
  ⟨"0a1b", "2024-01-01T00:00:00Z"⟩

/-- (declaringSubject) is what the run of the declaring program is about. -/
def declaringSubject : RunSubject where
  conf := .object [("max_callgraph_nodes", .int 0)]
  catalog := .minimal
  modelPath := "model.json"
  analysisId := "a24a656cef4463e0"

theorem programId_declaring
    : ArtifactStore.programId (besideProgram declaring).tree "model.json"
      = .ok declaringSubject.analysisId := by
  decide +kernel

theorem settle_declaring
    : settle (besideProgram declaring).tree roomless asking = .ok declaringSubject := by
  have conf : roomless.fieldD "analysis" (.object []) = .ok declaringSubject.conf := rfl
  have names : catalogReference declaringSubject.conf asking = .ok (.text "v1-minimal") := rfl
  have resolved
      : Catalog.resolve (besideProgram declaring).tree (.text "v1-minimal") = .ok .minimal :=
    rfl
  have subject : ArtifactStore.subjectPath asking.modelPath = .ok "model.json" := rfl
  simp only [settle, conf, names, resolved, subject, programId_declaring, bind, Except.bind]
  rfl

/-- The run of the declaring program gives a report. -/
theorem run_declaring_ok
    : ∃ report after,
        outcome (run .willing roomless asking stamped) (besideProgram declaring)
          = (.ok report, after) := by
  have gives
      : (outcome (run .willing roomless asking stamped) (besideProgram declaring)).1.isOk
        = true := by
    -- Every path of the run holds the digest, so it is computed before the run is.
    rw [run, prepare, bind_assoc, outcome_bind_ok (outcome_get _), bind_assoc,
      outcome_bind_ok (by rw [outcome_lift, settle_declaring])]
    decide +kernel
  rcases ended : outcome (run .willing roomless asking stamped) (besideProgram declaring) with
    ⟨fault | report, after⟩
  · rw [ended] at gives
    cases gives
  · exact ⟨report, after, rfl⟩

/-- The output directory of the declaring program's run is empty before. -/
theorem vacant_declaring : Vacant roomless asking stamped (besideProgram declaring).tree := by
  rintro store stored place below ⟨text, stands⟩
  have out : location store.base = [Text.ofString "out"] := by
    rw [base_of_storeOf rfl (by decide) stored]
    decide +kernel
  rw [out] at below
  have apart : (Text.ofString "model.json") ≠ Text.ofString "out" := by decide
  obtain ⟨rest, rfl⟩ := below
  unfold entry? at stands
  split at stands
  · cases stands
  · simp [besideProgram, apart] at stands

/-- A program with a callback is run in an empty output directory, and the run gives a report. -/
theorem run_leavesBehind_besideProgram
    : stamped.runId.IsFileName
      ∧ Vacant roomless asking stamped (besideProgram declaring).tree
      ∧ ∃ report after,
          outcome (run .willing roomless asking stamped) (besideProgram declaring)
            = (.ok report, after)
          ∧ LeavesBehind .willing roomless asking stamped (besideProgram declaring) (.ok report)
              after := by
  have named : stamped.runId.IsFileName := by decide
  obtain ⟨report, after, done⟩ := run_declaring_ok
  exact ⟨named, vacant_declaring, report, after, done, run_leavesBehind named vacant_declaring done⟩

end ArkLifecycle.Run
