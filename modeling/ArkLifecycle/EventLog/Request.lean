import ArkLifecycle.Session

/-! Requests to log an event.

A request gives arguments in order and fields by name. The type of an event, the stage it is about
and how the stage ended are arguments; all other fields become fields of the event.
-/

namespace ArkLifecycle

/-- What a request asks for: an event of any kind, or that a stage begins or ends. -/
inductive Announcement where
  | event
  | stageStart
  | stageEnd
deriving DecidableEq, Repr, Inhabited

/-- A request to log an event. -/
structure EventRequest where
  announcement : Announcement
  arguments : List Json
  fields : Json.Fields
deriving Repr, Inhabited

namespace Announcement

/-- (operation announcement) is the operation that a request asks for. Its first argument is the
log itself.
-/
def operation : Announcement → Operation
  | .event => ⟨"EventLogger.log", ["self", "event_type"], []⟩
  | .stageStart => ⟨"EventLogger.stage_start", ["self", "stage"], []⟩
  | .stageEnd => ⟨"EventLogger.stage_end", ["self", "stage"], ["status"]⟩

/-- (bind announcement given named) settles the arguments of a request. -/
def bind (announcement : Announcement) (given : List Json) (named : Json.Fields)
    : Except Fault (Json.Fields × Json.Fields) :=
  announcement.operation.bind (.null :: given) named

end Announcement

namespace EventRequest

/-- (eventOf given named) is the event that the arguments of a request describe. -/
def eventOf (given : List Json) (named : Json.Fields) : Except Fault Event := do
  let (arguments, fields) ← Announcement.event.bind given named
  return ⟨Operation.argument arguments "event_type" .null, fields⟩

/-- (event request) is the event that a request describes. What is about a stage becomes an event
of its own type, with the stage among its fields.
-/
def event (request : EventRequest) : Except Fault Event := do
  match request.announcement with
  | .event => eventOf request.arguments request.fields
  | .stageStart =>
      let (arguments, fields) ← Announcement.stageStart.bind request.arguments request.fields
      let begun := Event.stageStart (Operation.argument arguments "stage" .null) fields
      eventOf [begun.type] begun.fields
  | .stageEnd =>
      let (arguments, fields) ← Announcement.stageEnd.bind request.arguments request.fields
      let status := Operation.argument arguments "status" (.text "ok")
      let ended := Event.stageEnd (Operation.argument arguments "stage" .null) status fields
      eventOf [ended.type] ended.fields

end EventRequest

end ArkLifecycle
