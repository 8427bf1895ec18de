import ArkLifecycle.Proofs.EventLog.Records
import ArkLifecycle.Proofs.Run.Protocol

/-! The protocol of a run can be read from the file of its log.

What an event shows is read from its line alone: its type and the stage and the status that it
names, if it does. The fields that the log writes itself hide none of these.
-/

namespace ArkLifecycle

open Effect FileTree Json

-----------------------------------------------------------------------------------------
-- Reading signs
-----------------------------------------------------------------------------------------

/-- (Sign.ofLine line) is what the event of a line shows, if the line is that of an event. -/
def Sign.ofLine (line : String) : Option Sign :=
  match parse line with
  | .ok (.object fields) =>
      (lookup fields (.text "event_type")).map fun type =>
        ⟨type, lookup fields (.text "stage"), lookup fields (.text "status")⟩
  | _ => none

namespace EventLog

variable {log : EventLog} {timestamp : Text} {path : Path}

/-- The type of an event is among the fields that the log writes itself. -/
theorem lookup_heading_type (log : EventLog) (timestamp : Text) (type : Json)
    : lookup (log.heading timestamp type) (.text "event_type") = some type := by
  rw [heading, lookup_append]
  rfl

/-- No other name is among them. -/
theorem lookup_heading_other (log : EventLog) (timestamp : Text) (type : Json) {name : Text}
    (other : name ∉ ownNames)
    : lookup (log.heading timestamp type) (.text name) = none := by
  have unlike {own : Text} (among : own ∈ ownNames)
      : Name.same (Scalar.text own) (.text name) = false := by
    refine Bool.eq_false_iff.mpr fun same => other ?_
    cases (same_text_iff _ _).mp same
    exact among
  have known
      : lookup
          ([("ts", .text timestamp), ("event_type", type), ("analysis_id", .text log.analysisId)]
            : Json.Fields)
          (.text name)
        = none := by
    rw [lookup_cons, lookup_cons, lookup_cons, unlike (by decide), unlike (by decide),
      unlike (by decide)]
    rfl
  rw [heading, lookup_append, known, Option.none_or]
  split
  · split
    · rfl
    · rw [lookup_cons, unlike (by decide)]
      rfl
  · rfl

/-- An event that can be stored has a line without line ends, on which stands what it shows. -/
theorem ofLine_of_line (storable : log.IsStorable) (halves : HalvesApart timestamp) {event : Event}
    (stored : event.IsStorable) {written : String} (has : log.line timestamp event = .ok written)
    : ∃ line,
        written = line ++ "\n" ∧ '\n' ∉ line.toList ∧ Sign.ofLine line = some event.sign := by
  obtain ⟨line, given, -, printable, read⟩ := line_of_storable storable halves stored
  have stage : lookup (log.heading timestamp event.type) (.text "stage") = none :=
    lookup_heading_other log timestamp event.type (by decide)
  have status : lookup (log.heading timestamp event.type) (.text "status") = none :=
    lookup_heading_other log timestamp event.type (by decide)
  refine ⟨line, Except.ok.inj (has.symm.trans given), fun ends => ?_, ?_⟩
  · exact absurd (printable _ ends) (by decide)
  · simp only [Sign.ofLine, read, lookup_append, lookup_heading_type, stage, status,
      Option.some_or, Option.none_or]
    rfl

/-- On the lines of events stands what they show, in order. Witness: induction over the events. -/
theorem ofLine_of_lines (storable : log.IsStorable) (halves : HalvesApart timestamp)
    {events : List Event} (each : ∀ event ∈ events, event.IsStorable) {all : List String}
    (written : events.mapM (log.line timestamp) = .ok all)
    : ∃ lines : List String,
        all = lines.map (· ++ "\n")
        ∧ (∀ line ∈ lines, '\n' ∉ line.toList)
        ∧ lines.map Sign.ofLine = (events.map Event.sign).map some := by
  induction events generalizing all with
  | nil =>
      cases written
      exact ⟨[], rfl, nofun, rfl⟩
  | cons event rest ih =>
      obtain ⟨stored, others⟩ := List.forall_mem_cons.mp each
      rw [List.mapM_cons] at written
      obtain ⟨first, given, written⟩ := bind_eq_ok written
      obtain ⟨later, followed, written⟩ := bind_eq_ok written
      cases written
      obtain ⟨line, rfl, whole, read⟩ := ofLine_of_line storable halves stored given
      obtain ⟨lines, rfl, apart, shown⟩ := ih others followed
      refine ⟨line :: lines, rfl, List.forall_mem_cons.mpr ⟨whole, apart⟩, ?_⟩
      rw [List.map_cons, List.map_cons, List.map_cons, read, shown]

/-- Events add whole lines to the file, and on these stands what they show. -/
theorem Adds.shown {before after : FileTree} {events : List Event} (storable : log.IsStorable)
    (halves : HalvesApart timestamp) (adds : log.Adds timestamp path before events after)
    (each : ∀ event ∈ events, event.IsStorable)
    : ∃ (added : String) (lines : List String),
        after.textAt path = before.textAt path ++ added
        ∧ added.toList.splitOn '\n' = lines.map String.toList ++ [[]]
        ∧ lines.map Sign.ofLine = (events.map Event.sign).map some := by
  obtain ⟨all, written, text⟩ := adds
  obtain ⟨lines, rfl, apart, shown⟩ := ofLine_of_lines storable halves each written
  exact ⟨_, lines, text, splitOn_join apart, shown⟩

end EventLog

-----------------------------------------------------------------------------------------
-- The protocol in the file
-----------------------------------------------------------------------------------------

namespace Run

variable {plan : RunPlan} {path : Path} {settings : Json} {request : RunRequest} {stamp : RunStamp}

/-- The lines that a run adds to the file of its log show that it follows the protocol, if something
can be added to the file and all that the run logs can be stored.
-/
theorem run_showsProtocol {host : Host} {before prepared after : RunState} {opened : FileTree}
    {result : Except Fault Json} {events : List Event}
    (planned : outcome (prepare host settings request stamp) before = (.ok plan, prepared))
    (has : plan.log.path = some path) (opens : prepared.tree.append path "" = .ok opened)
    (done : outcome (run host settings request stamp) before = (result, after))
    (told : after.session.events = before.session.events ++ events)
    (storable : plan.log.IsStorable) (halves : HalvesApart plan.stamp.timestamp)
    (each : ∀ event ∈ events, event.IsStorable)
    : ∃ (added : String) (lines : List String) (signs : List Sign),
        after.tree.textAt path = prepared.tree.textAt path ++ added
        ∧ added.toList.splitOn '\n' = lines.map String.toList ++ [[]]
        ∧ lines.map Sign.ofLine = signs.map some
        ∧ Protocol (sweeps plan) after.analysis result signs := by
  obtain ⟨logged, kept, adds, follows⟩ := (run_followsProtocol planned has done).2 opened opens
  obtain rfl : logged = events := List.append_cancel_left (kept.symm.trans told)
  obtain ⟨added, lines, text, ends, shown⟩ := adds.shown storable halves each
  exact ⟨added, lines, _, text, ends, shown, follows⟩

end Run

end ArkLifecycle
