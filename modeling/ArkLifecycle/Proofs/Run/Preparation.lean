import ArkLifecycle.Proofs.Run.Steps

/-! What is settled before a run, and what is made for it.

The catalog and the name of the analysis are settled without touching anything. Then directories
are made, and no file. The plan of the run is determined by what was settled.
-/

namespace ArkLifecycle.Run

open Effect FileTree RunStep

variable {host : Host} {settings : Json} {request : RunRequest} {stamp : RunStamp}

-----------------------------------------------------------------------------------------
-- The plan of a run
-----------------------------------------------------------------------------------------

/-- (storeFor stamp base subject) is where the results of a run are kept. -/
def storeFor (stamp : RunStamp) (base : Path) (subject : RunSubject) : ArtifactStore where
  base
  analysisId := subject.analysisId
  runId := some stamp.runId

/-- (logFor store enabled) is the log of a run. -/
def logFor (store : ArtifactStore) (enabled : Bool) : EventLog :=
  if enabled then ⟨store.analysisId, store.runId, some (EventLog.filePath store)⟩ else .silent

/-- (planFor host stamp base subject enabled) is the plan of a run. -/
def planFor (host : Host) (stamp : RunStamp) (base : Path) (subject : RunSubject) (enabled : Bool)
    : RunPlan :=
  let store := storeFor stamp base subject
  let log := logFor store enabled
  let context := host.context.enter (.text subject.analysisId) (.text stamp.runId)
    (.text subject.catalog.version)
  { stamp
    conf := subject.conf
    catalog := subject.catalog
    modelPath := subject.modelPath
    analysisId := subject.analysisId
    store
    log
    host := { host with context, refuse := log.refuses stamp.timestamp } }

/-- The name of a settled analysis is one of a directory. -/
theorem analysisId_isFileName {tree : FileTree} {subject : RunSubject}
    (settled : settle tree settings request = .ok subject)
    : subject.analysisId.IsFileName := by
  obtain ⟨conf, -, settled⟩ := bind_eq_ok settled
  obtain ⟨reference, -, settled⟩ := bind_eq_ok settled
  obtain ⟨catalog, -, settled⟩ := bind_eq_ok settled
  obtain ⟨modelPath, -, settled⟩ := bind_eq_ok settled
  obtain ⟨analysisId, named, settled⟩ := bind_eq_ok settled
  obtain ⟨text, -, named⟩ := bind_eq_ok named
  cases settled
  have digest : analysisId = Digest.short (Digest.ofText text) := (Except.ok.inj named).symm
  rw [digest]
  exact Digest.short_isFileName text

/-- A log that is begun is the one of its store. -/
theorem startLog_eq_ok {store : ArtifactStore} {log : EventLog} {before after : RunState}
    (done : outcome (startLog store settings) before = (.ok log, after))
    : ∃ enabled, isLogged settings = .ok enabled ∧ log = logFor store enabled := by
  obtain ⟨enabled, middle, decided, started⟩ := outcome_bind_eq_ok done
  rw [outcome_lift] at decided
  refine ⟨enabled, (Prod.mk.inj decided).1, ?_⟩
  rw [outcome_edit, EventLog.start] at started
  cases enabled with
  | false =>
      cases started
      rfl
  | true =>
      obtain ⟨_, _, -, given⟩ := outcome_bind_eq_ok (Prod.ext (Prod.mk.inj started).1 rfl)
      cases given
      rfl

/-- The plan of a run is determined by what was settled, and by what the settings say. -/
theorem prepare_eq_ok {plan : RunPlan} {before after : RunState}
    (done : outcome (prepare host settings request stamp) before = (.ok plan, after))
    : ∃ subject base enabled,
        settle before.tree settings request = .ok subject
        ∧ basePath subject.conf request = .ok base
        ∧ isLogged settings = .ok enabled
        ∧ plan = planFor host stamp base subject enabled := by
  obtain ⟨state, _, got, done⟩ := outcome_bind_eq_ok done
  cases got
  obtain ⟨subject, _, settled, done⟩ := outcome_bind_eq_ok done
  obtain ⟨base, _, found, done⟩ := outcome_bind_eq_ok done
  obtain ⟨_, _, -, done⟩ := outcome_bind_eq_ok done
  obtain ⟨log, _, started, done⟩ := outcome_bind_eq_ok done
  obtain ⟨enabled, decided, rfl⟩ := startLog_eq_ok started
  rw [outcome_lift] at settled found
  cases done
  exact ⟨subject, base, enabled, (Prod.mk.inj settled).1, (Prod.mk.inj found).1, decided, rfl⟩

/-- A run for which nothing can be settled does nothing. -/
theorem run_unsettled {before : RunState} {fault : Fault}
    (unsettled : settle before.tree settings request = .error fault)
    : outcome (run host settings request stamp) before = (.error fault, before) := by
  have failed : outcome (prepare host settings request stamp) before = (.error fault, before) := by
    rw [prepare, outcome_bind_ok (outcome_get before)]
    exact outcome_bind_error (by rw [outcome_lift, unsettled])
  exact outcome_bind_error failed

-----------------------------------------------------------------------------------------
-- What is made for a run
-----------------------------------------------------------------------------------------

/-- Making directories adds no file. Witness: induction over the directories. -/
theorem makeDirectories_edits (store : ArtifactStore) (parts : List Text)
    : Edits ∅ [] (makeDirectories store parts) := by
  induction parts with
  | nil => exact .pure ()
  | cons part rest ih =>
      exact (edit_edits (FileEdit.makeDirectory_leaves (store.path [part]))).bind fun _ => ih

/-- A log is begun without its file. -/
theorem start_leaves (store : ArtifactStore) (runId : Option Text) (enabled : Bool)
    : Leaves id ∅ [] (EventLog.start store runId enabled) := by
  unfold EventLog.start
  split
  · exact (FileEdit.makeDirectory_leaves _).bind fun _ => .pure _
  · exact .pure _

/-- What is done before a run adds no file, and changes nothing but files. -/
theorem prepare_edits : Edits ∅ [] (prepare host settings request stamp) := by
  refine Edits.get.bind fun state => ?_
  refine (Edits.lift _).bind fun subject => ?_
  refine (Edits.lift _).bind fun base => ?_
  refine (makeDirectories_edits _ _).bind fun _ => ?_
  have started (store : ArtifactStore) : Edits ∅ [] (startLog store settings) :=
    (Edits.lift _).bind fun enabled => edit_edits (start_leaves _ _ enabled)
  exact (started _).bind fun log => .pure _

end ArkLifecycle.Run
