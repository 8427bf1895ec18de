import ArkLifecycle.Proofs.Files.Growth
import ArkLifecycle.Run

/-! The lines of a log.

What is written to a log is added at its end, one line for each event. An event whose fields are
all texts always has a line.
-/

namespace ArkLifecycle

open Effect FileTree

-----------------------------------------------------------------------------------------
-- Documents of texts
-----------------------------------------------------------------------------------------

namespace Json

/-- All names and all values are texts. -/
def AllTexts (fields : Json.Fields) : Prop :=
  ∀ field ∈ fields, ∃ name value : Text, field = (.text name, .text value)

theorem AllTexts.put {fields : Json.Fields} (texts : AllTexts fields) (name value : Text)
    : AllTexts (Json.put fields (.text name) (.text value)) := by
  unfold Json.put
  split
  · rintro _ member
    obtain ⟨field, among, rfl⟩ := List.mem_map.mp member
    obtain ⟨title, content, rfl⟩ := texts field among
    split
    · exact ⟨title, value, rfl⟩
    · exact ⟨title, content, rfl⟩
  · intro field member
    rcases List.mem_append.mp member with among | last
    · exact texts field among
    · exact ⟨name, value, List.mem_singleton.mp last⟩

/-- Fields of texts that are put one after the other. Witness: induction over the fields. -/
theorem AllTexts.merge {fields more : Json.Fields} (texts : AllTexts fields)
    (later : AllTexts more)
    : AllTexts (Json.merge fields more) := by
  induction more generalizing fields with
  | nil => exact texts
  | cons field rest ih =>
      obtain ⟨name, value, rfl⟩ := later field (by simp)
      exact ih (texts.put name value) fun one member =>
        later one (List.mem_cons_of_mem _ member)

/-- There is nothing in texts that could be endless. -/
theorem spreadFields_eq {fields : Json.Fields} (texts : AllTexts fields)
    : spreadFields fields = fields := by
  induction fields with
  | nil => rfl
  | cons field rest ih =>
      obtain ⟨name, value, rfl⟩ := texts field (by simp)
      have same : spread (.text value) = .text value := rfl
      rw [spreadFields, same, ih fun one member => texts one (List.mem_cons_of_mem _ member)]

theorem compactFields_eq_ok {fields : Json.Fields} (texts : AllTexts fields) (room : Nat)
    : ∃ chars, compactFields room fields = .ok chars := by
  induction fields with
  | nil => exact ⟨[], rfl⟩
  | cons field rest ih =>
      obtain ⟨name, value, rfl⟩ := texts field (by simp)
      obtain ⟨chars, written⟩ := ih fun one member => texts one (List.mem_cons_of_mem _ member)
      cases rest with
      | nil =>
          refine ⟨asciiText name ++ [':', ' '] ++ asciiText value, ?_⟩
          rw [compactFields, compactChars_text]
          rfl
      | cons next more =>
          refine ⟨asciiText name ++ [':', ' '] ++ asciiText value ++ [',', ' '] ++ chars, ?_⟩
          rw [compactFields, compactChars_text, written]
          rfl

/-- A document of texts can always be written. -/
theorem compact_eq_ok {fields : Json.Fields} (texts : AllTexts fields)
    : ∃ line, (Json.object fields).compact = .ok line := by
  obtain ⟨chars, written⟩ := compactFields_eq_ok texts (depthLimit - 1)
  have room : depthLimit = depthLimit - 1 + 1 := rfl
  refine ⟨String.ofList ('{' :: chars ++ ['}']), ?_⟩
  rw [compact, spread, spreadFields_eq texts, room, compactChars, written]
  rfl

end Json

/-- The type of an event and all of its fields are texts. -/
def Event.OfTexts (event : Event) : Prop :=
  ∃ type fields, event = ⟨.text type, fields⟩ ∧ Json.AllTexts fields

namespace EventLog

variable {log : EventLog} {timestamp : Text} {path : Path}

/-- An event of texts is a document of texts. -/
theorem document_texts {type : Text} {fields : Json.Fields} (texts : Json.AllTexts fields)
    : ∃ all, log.document timestamp ⟨.text type, fields⟩ = .object all ∧ Json.AllTexts all := by
  have known : Json.AllTexts [("ts", .text timestamp), ("event_type", .text type),
      ("analysis_id", .text log.analysisId)] := by
    simp [Json.AllTexts]
  refine ⟨_, rfl, Json.AllTexts.merge (fun field member => ?_) texts⟩
  rcases List.mem_append.mp member with among | among
  · exact known field among
  · split at among
    · next name _ =>
        split at among
        · cases among
        · exact ⟨"run_id", name, List.mem_singleton.mp among⟩
    · cases among

/-- An event of texts always has a line. -/
theorem line_eq_ok {event : Event} (texts : event.OfTexts)
    : ∃ line, log.line timestamp event = .ok line := by
  obtain ⟨type, fields, rfl, allTexts⟩ := texts
  obtain ⟨all, document, allTexts⟩ := document_texts allTexts
  obtain ⟨line, written⟩ := Json.compact_eq_ok allTexts
  refine ⟨line ++ "\n", ?_⟩
  rw [EventLog.line, document, written]
  rfl

/-- A log refuses no event that has a line. -/
theorem refuses_of_line {event : Event} {line : String}
    (written : log.line timestamp event = .ok line)
    : log.refuses timestamp event = none := by
  unfold refuses
  rw [written]
  cases log.path <;> rfl

/-- An event that a log with a file does not refuse has a line. -/
theorem line_of_refuses {event : Event} (has : log.path = some path)
    (accepted : log.refuses timestamp event = none)
    : ∃ line, log.line timestamp event = .ok line := by
  unfold refuses at accepted
  rw [has] at accepted
  cases written : log.line timestamp event with
  | ok line => exact ⟨line, rfl⟩
  | error fault => simp [written] at accepted

-----------------------------------------------------------------------------------------
-- Adding lines
-----------------------------------------------------------------------------------------

/-- Between two trees the lines of the events were added to the file of the log. -/
def Adds (log : EventLog) (timestamp : Text) (path : Path) (before : FileTree)
    (events : List Event) (after : FileTree)
    : Prop :=
  ∃ lines,
    events.mapM (log.line timestamp) = .ok lines
    ∧ after.textAt path = before.textAt path ++ String.join lines

theorem Adds.nil (tree : FileTree) : log.Adds timestamp path tree [] tree :=
  ⟨[], rfl, by simp⟩

theorem Adds.append {first second third : FileTree} {events more : List Event}
    (earlier : log.Adds timestamp path first events second)
    (later : log.Adds timestamp path second more third)
    : log.Adds timestamp path first (events ++ more) third := by
  obtain ⟨lines, written, begun⟩ := earlier
  obtain ⟨others, rest, ended⟩ := later
  refine ⟨lines ++ others, ?_, ?_⟩
  · rw [List.mapM_append, written, rest]
    rfl
  · rw [ended, begun, String.join_append, String.append_assoc]

/-- To write an event is to add its line to the file. -/
theorem write_of_line {event : Event} {line : String} (has : log.path = some path)
    (written : log.line timestamp event = .ok line)
    : log.write timestamp event = FileEdit.change fun tree => tree.append path line := by
  rw [write, has]
  simp only [written]
  rfl

/-- An event with a line is written to a log that something can be added to. -/
theorem write_adds {event : Event} {line : String} {before next : FileTree}
    (has : log.path = some path) (written : log.line timestamp event = .ok line)
    (added : before.append path line = .ok next)
    : outcome (log.write timestamp event) before = (.ok (), next)
      ∧ next.HasFile path
      ∧ log.Adds timestamp path before [event] next := by
  have done : outcome (log.write timestamp event) before = (.ok (), next) := by
    rw [write_of_line has written, FileEdit.outcome_change, added]
  rw [append_eq_write] at added
  have read := read_of_write added
  refine ⟨done, ⟨_, read⟩, [line], ?_, ?_⟩
  · rw [List.mapM_cons, written]
    rfl
  · rw [textAt, read]
    simp

/-- An event with a line is not written to a log that nothing can be added to. -/
theorem write_blocked {event : Event} {line : String} {before : FileTree} {fault : Fault}
    (has : log.path = some path) (written : log.line timestamp event = .ok line)
    (blocked : before.append path line = .error fault)
    : outcome (log.write timestamp event) before = (.error fault, before) := by
  rw [write_of_line has written, FileEdit.outcome_change, blocked]

/-- Events with lines are all written to a log whose file stands. Witness: induction over the
events; every line that is added leaves the file for the next one.
-/
theorem writeAll_adds {events : List Event} {before : FileTree} (has : log.path = some path)
    (accepted : ∀ event ∈ events, log.refuses timestamp event = none)
    (ready : before.HasFile path)
    : ∃ after,
        outcome (log.writeAll timestamp events) before = (.ok (), after)
        ∧ after.HasFile path
        ∧ log.Adds timestamp path before events after := by
  induction events generalizing before with
  | nil => exact ⟨before, rfl, ready, .nil before⟩
  | cons event rest ih =>
      obtain ⟨line, written⟩ := line_of_refuses has (accepted event (by simp))
      obtain ⟨next, added⟩ := ready.append_eq_ok line
      obtain ⟨done, still, begun⟩ := write_adds has written added
      obtain ⟨after, finished, ended, others⟩ :=
        ih (fun one member => accepted one (List.mem_cons_of_mem _ member)) still
      exact ⟨after, (outcome_bind_ok done).trans finished, ended, begun.append others⟩

end EventLog

end ArkLifecycle
