import ArkLifecycle.ArtifactStore
import ArkLifecycle.Session

/-! The log of a run: one event a line, each a JSON document in pure ASCII. -/

namespace ArkLifecycle

/-- A log, with the file it is written to. A log without a file takes events and forgets them. -/
structure EventLog where
  analysisId : Text
  runId : Option Text
  path : Option Path
deriving DecidableEq, Repr, Inhabited

namespace EventLog

/-- (silent) is the log that forgets all events. -/
def silent : EventLog := ⟨"", none, none⟩

/-- (filePath store) is the file that the events of a run are written to. -/
def filePath (store : ArtifactStore) : Path :=
  store.path ["observability", "run.jsonl"]

/-- (start store runId enabled) begins a log and makes the directory of its file. -/
def start (store : ArtifactStore) (runId : Option Text) (enabled : Bool)
    : FileEdit EventLog := do
  if enabled then
    let path := filePath store
    FileEdit.makeDirectory path.parent
    return ⟨store.analysisId, runId, some path⟩
  else
    return silent

/-- (document log timestamp event) is an event with its time and the run it belongs to; a field of
the event replaces one that is known before.
-/
def document (log : EventLog) (timestamp : Text) (event : Event) : Json :=
  let known : Json.Fields :=
    [("ts", .text timestamp), ("event_type", event.type), ("analysis_id", .text log.analysisId)]
  let run : Json.Fields :=
    match log.runId with
    | some name => if name.isEmpty then [] else [("run_id", .text name)]
    | none => []
  .object (Json.merge (known ++ run) event.fields)

/-- (line log timestamp event) is the line of an event. -/
def line (log : EventLog) (timestamp : Text) (event : Event) : Except Fault String :=
  return (← (log.document timestamp event).compact) ++ "\n"

/-- (refuses log timestamp event) is the fault that keeps an event out of the log, if there is one.
A log without a file takes every event.
-/
def refuses (log : EventLog) (timestamp : Text) (event : Event) : Option Fault :=
  match log.path, log.line timestamp event with
  | some _, .error fault => some fault
  | _, _ => none

/-- (write log timestamp event) adds the line of an event to the file of the log. -/
def write (log : EventLog) (timestamp : Text) (event : Event) : FileEdit Unit :=
  match log.path with
  | some path => FileEdit.change fun tree => do tree.append path (← log.line timestamp event)
  | none => pure ()

/-- (writeAll log timestamp events) adds the lines of events in order. -/
def writeAll (log : EventLog) (timestamp : Text) (events : List Event) : FileEdit Unit :=
  events.forM (log.write timestamp)

end EventLog

end ArkLifecycle
