import ArkLifecycle.Proofs.EventLog.Lines
import ArkLifecycle.Proofs.EventLog.Requests
import ArkLifecycle.Proofs.Json.RoundTrip

/-! A log has one line for every event, and gives the events back.

The line of an event is printable ASCII, so line ends stand between lines only. An event whose
values can be stored is read from its line with all of its fields, after those that the log writes
itself.
-/

namespace ArkLifecycle

open Effect FileTree Json

-----------------------------------------------------------------------------------------
-- What can be stored
-----------------------------------------------------------------------------------------

/-- (fieldRoom) is how deep the value of a field may be nested, the event being one layer. -/
def fieldRoom : Nat := depthLimit - 1

/-- (ownNames) are the names of the fields that a log writes itself. -/
def ownNames : List Text := ["ts", "event_type", "analysis_id", "run_id"]

/-- (reservedNames) are those of them that no field of a request has. The type of an event is an
argument of some requests.
-/
def reservedNames : List Text := ["ts", "analysis_id", "run_id"]

/-- All values of an event can be stored, under names of their own that no other field has. -/
structure Event.IsStorable (event : Event) : Prop where
  type : Storable fieldRoom event.type
  apart : Apart event.fields
  named
    : ∀ field ∈ event.fields, ∃ name, field.1 = .text name ∧ HalvesApart name ∧ name ∉ ownNames
  values : ∀ field ∈ event.fields, Storable fieldRoom field.2

/-- All values of a request can be stored. The names of its fields differ, and are texts other than
those that a log writes for every event.
-/
structure EventRequest.IsStorable (request : EventRequest) : Prop where
  arguments : ∀ value ∈ request.arguments, Storable fieldRoom value
  apart : Apart request.fields
  named
    : ∀ field ∈ request.fields,
        ∃ name, field.1 = .text name ∧ HalvesApart name ∧ name ∉ reservedNames
  values : ∀ field ∈ request.fields, Storable fieldRoom field.2

namespace Operation

variable {given : List Json} {named rest : Json.Fields} {values : List (Text × Option Json)}

/-- An argument takes what is given to it. Witness: induction over the arguments. -/
theorem Settles.mem (settles : Settles given named values rest)
    : ∀ taken ∈ values, ∀ value ∈ taken.2, value ∈ given ∨ ∃ field ∈ named, field.2 = value := by
  induction settles with
  | nil => simp
  | @cons name given more named others rest value values first later ih =>
      rw [List.forall_mem_cons]
      cases first with
      | inOrder =>
          refine ⟨fun _ same => .inl (Option.some.inj same ▸ List.mem_cons_self), ?_⟩
          exact fun taken member value held =>
            (ih taken member value held).imp_left (List.mem_cons_of_mem _)
      | @byName value left right =>
          refine ⟨fun _ same => .inr ⟨_, List.mem_append_right left List.mem_cons_self,
            Option.some.inj same⟩, fun taken member value held => ?_⟩
          refine (ih taken member value held).imp_right fun ⟨field, listed, same⟩ => ?_
          exact ⟨field, (List.sublist_cons_self _ _).append_left _ |>.subset listed, same⟩
      | absent => exact ⟨fun _ => nofun, ih⟩

end Operation

namespace EventRequest

open Operation

/-- What is left of the fields of a request makes an event that can be stored. -/
theorem isStorable_rest {given : List Json} {named rest : Json.Fields}
    {values : List (Text × Option Json)} {announcement : Announcement} {type : Json}
    (storable : IsStorable ⟨announcement, given, named⟩)
    (settles : Settles (.null :: given) named values rest) (free : IsFree "event_type" rest)
    (typed : Storable fieldRoom type)
    : Event.IsStorable ⟨type, rest⟩ := by
  have within := settles.sublist
  constructor
  case type => exact typed
  case apart => exact storable.apart.sublist within
  case named =>
    intro field member
    obtain ⟨name, called, halves, others⟩ := storable.named field (within.subset member)
    refine ⟨name, called, halves, fun own => ?_⟩
    rcases List.mem_cons.mp own with ts | own
    · exact others (ts ▸ List.mem_cons_self)
    · rcases List.mem_cons.mp own with event | own
      · exact free field member (called.trans (congrArg _ event))
      · exact others (List.mem_cons_of_mem _ own)
  case values => exact fun field member => storable.values field (within.subset member)

/-- Whatever an argument takes can be stored. -/
theorem IsStorable.taken {given : List Json} {named rest : Json.Fields}
    {values : List (Text × Option Json)} {announcement : Announcement}
    (storable : IsStorable ⟨announcement, given, named⟩)
    (settles : Settles (.null :: given) named values rest) (name : Text) {value : Json}
    (taken : (name, some value) ∈ values)
    : Storable fieldRoom value := by
  rcases settles.mem _ taken value rfl with inOrder | ⟨field, member, rfl⟩
  · rcases List.mem_cons.mp inOrder with rfl | listed
    · exact .null
    · exact storable.arguments value listed
  · exact storable.values field member

end EventRequest

/-- A field with a new name can be added to an event. -/
theorem Event.IsStorable.cons {type value : Json} {fields : Json.Fields} {name : Text}
    (storable : Event.IsStorable ⟨type, fields⟩) (free : Operation.IsFree name fields)
    (halves : HalvesApart name) (other : name ∉ ownNames) (stored : Storable fieldRoom value)
    : Event.IsStorable ⟨type, (.text name, value) :: fields⟩ := by
  constructor
  case type => exact storable.type
  case apart =>
    refine List.pairwise_cons.mpr ⟨fun field member => ?_, storable.apart⟩
    exact Bool.eq_false_iff.mpr fun same => free field member ((same_text_iff _ _).mp same)
  case named =>
    rw [List.forall_mem_cons]
    exact ⟨⟨name, rfl, halves, other⟩, storable.named⟩
  case values =>
    rw [List.forall_mem_cons]
    exact ⟨stored, storable.values⟩

namespace EventRequest

open Operation

/-- The event of a request whose values can be stored can be stored. -/
theorem Asks.isStorable {request : EventRequest} {event : Event} (asks : request.Asks event)
    (storable : request.IsStorable)
    : event.IsStorable := by
  have texts : HalvesApart "stage" ∧ HalvesApart "status" ∧ HalvesApart "ok"
      ∧ HalvesApart "stage.start" ∧ HalvesApart "stage.end" := by
    decide +kernel
  cases asks with
  | @event given named rest type settles =>
      refine isStorable_rest storable settles (settles.free ("event_type", some type) (by simp)) ?_
      exact storable.taken settles "event_type" (by simp)
  | @stageStart given named rest stage settles free =>
      have others := isStorable_rest storable settles free (.text texts.2.2.2.1)
      have stored : Storable fieldRoom stage := storable.taken settles "stage" (by simp)
      refine others.cons (settles.free ("stage", some stage) (by simp)) texts.1 (by decide) stored
  | @stageEnd given named rest stage status settles free =>
      have others := isStorable_rest storable settles free (.text texts.2.2.2.2)
      have stored : Storable fieldRoom stage := storable.taken settles "stage" (by simp)
      have ended : Storable fieldRoom (status.getD (.text "ok")) := by
        cases given : status with
        | none => exact .text texts.2.2.1
        | some value => exact storable.taken settles "status" (by simp [given])
      have stageFree : IsFree "stage" rest := settles.free ("stage", some stage) (by simp)
      have statusFree : IsFree "status" rest := settles.free ("status", status) (by simp)
      exact (others.cons statusFree texts.2.1 (by decide) ended).cons
        (stageFree.cons (by decide) _) texts.1 (by decide) stored

end EventRequest

-----------------------------------------------------------------------------------------
-- Lines
-----------------------------------------------------------------------------------------

namespace EventLog

variable {log : EventLog} {timestamp : Text} {path : Path}

/-- (heading log timestamp type) are the fields that a log writes itself, before those of the event.
The name of the run is one of them if there is one that is not empty.
-/
def heading (log : EventLog) (timestamp : Text) (type : Json) : Json.Fields :=
  let known : Json.Fields :=
    [("ts", .text timestamp), ("event_type", type), ("analysis_id", .text log.analysisId)]
  let run : Json.Fields :=
    match log.runId with
    | some name => if name.isEmpty then [] else [("run_id", .text name)]
    | none => []
  known ++ run

/-- The names of the run and its analysis can be stored. -/
structure IsStorable (log : EventLog) : Prop where
  analysis : HalvesApart log.analysisId
  run : ∀ name ∈ log.runId, HalvesApart name

/-- The field of a log has one of its names, and a value that can be stored. -/
def IsOwn (field : Scalar × Json) : Prop :=
  ∃ name ∈ ownNames, field.1 = .text name ∧ Storable fieldRoom field.2

theorem heading_isOwn (storable : log.IsStorable) (halves : HalvesApart timestamp) {type : Json}
    (typed : Storable fieldRoom type)
    : ∀ field ∈ log.heading timestamp type, IsOwn field := by
  have own {name : Text} {value : Json} (member : name ∈ ownNames)
      (stored : Storable fieldRoom value)
      : IsOwn (.text name, value) :=
    ⟨name, member, rfl, stored⟩
  rw [heading, List.forall_mem_append, List.forall_mem_cons, List.forall_mem_cons,
    List.forall_mem_singleton]
  refine ⟨⟨own (by decide) (.text halves), own (by decide) typed,
    own (by decide) (.text storable.analysis)⟩, fun field member => ?_⟩
  split at member
  · next name given =>
      split at member
      · cases member
      · rw [List.mem_singleton.mp member]
        exact own (by decide) (.text (storable.run name given))
  · cases member

/-- The log writes each of its fields once. -/
theorem heading_apart (log : EventLog) (timestamp : Text) (type : Json)
    : Apart (log.heading timestamp type) := by
  have names : Apart (ownNames.map fun name => (Scalar.text name, ())) := by
    unfold Apart
    decide +kernel
  have fewer : Apart ((ownNames.take 3).map fun name => (Scalar.text name, ())) :=
    List.Pairwise.sublist ((List.take_sublist _ _).map _) names
  rw [heading]
  split
  · split
    · exact fewer.of_names rfl
    · exact names.of_names rfl
  · exact fewer.of_names rfl

/-- The document of an event has the fields that the log writes itself, and then its own. -/
theorem document_eq (storable : log.IsStorable) (halves : HalvesApart timestamp) {event : Event}
    (stored : event.IsStorable)
    : log.document timestamp event = .object (log.heading timestamp event.type ++ event.fields)
      ∧ Storable depthLimit (log.document timestamp event) := by
  have own := heading_isOwn storable halves stored.type
  have both : Apart (log.heading timestamp event.type ++ event.fields) := by
    refine List.pairwise_append.mpr
      ⟨heading_apart log timestamp event.type, stored.apart, fun one member other listed => ?_⟩
    obtain ⟨name, taken, called, -⟩ := own one member
    obtain ⟨title, titled, -, free⟩ := stored.named other listed
    rw [called, titled]
    refine Bool.eq_false_iff.mpr fun same => free ?_
    cases (same_text_iff _ _).mp same
    exact taken
  have merged
      : log.document timestamp event
        = .object (log.heading timestamp event.type ++ event.fields) :=
    congrArg Json.object (merge_of_apart both)
  refine ⟨merged, ?_⟩
  rw [merged]
  refine .object both (List.forall_mem_append.mpr ⟨fun field member => ?_, fun field member => ?_⟩)
    (List.forall_mem_append.mpr ⟨fun field member => ?_, stored.values⟩)
  · obtain ⟨name, taken, called, -⟩ := own field member
    have halved : ∀ name ∈ ownNames, HalvesApart name := by decide +kernel
    exact ⟨name, called, halved name taken⟩
  · obtain ⟨name, called, halved, -⟩ := stored.named field member
    exact ⟨name, called, halved⟩
  · obtain ⟨-, -, -, value⟩ := own field member
    exact value

/-- An event that can be stored has a line of printable ASCII, from which it is read. -/
theorem line_of_storable (storable : log.IsStorable) (halves : HalvesApart timestamp)
    {event : Event} (stored : event.IsStorable)
    : ∃ line,
        log.line timestamp event = .ok (line ++ "\n")
        ∧ line ≠ ""
        ∧ (∀ c ∈ line.toList, IsPrintable c)
        ∧ parse line
          = .ok (.object (log.heading timestamp event.type ++ event.fields)) := by
  obtain ⟨same, whole⟩ := document_eq storable halves stored
  obtain ⟨line, written, some, printable, read⟩ := parse_compact whole
  refine ⟨line, ?_, some, printable, same ▸ read⟩
  rw [EventLog.line, written]
  rfl

-----------------------------------------------------------------------------------------
-- Calls
-----------------------------------------------------------------------------------------

/-- (take log calls) takes requests one after the other, each with its time. -/
def take (log : EventLog) (calls : List (Text × EventRequest)) : FileEdit Unit :=
  calls.forM fun call => do log.write call.1 (← call.2.event)

/-- A line of a log: printable ASCII from which the event of a call is read. -/
def Records (log : EventLog) (call : Text × EventRequest) (line : String) : Prop :=
  line ≠ ""
  ∧ (∀ c ∈ line.toList, IsPrintable c)
  ∧ ∃ event,
      call.2.Asks event
      ∧ parse line = .ok (.object (log.heading call.1 event.type ++ event.fields))

/-- A call that is understood and whose values can be stored. -/
def Takes (call : Text × EventRequest) : Prop :=
  HalvesApart call.1 ∧ call.2.IsStorable ∧ ∃ event, call.2.Asks event

/-- Calls leave one line each in the file. Witness: induction over the calls; every line that is
added leaves the file for the next one.
-/
theorem take_adds {before opened : FileTree} {calls : List (Text × EventRequest)}
    (has : log.path = some path) (storable : log.IsStorable)
    (opens : before.append path "" = .ok opened) (each : ∀ call ∈ calls, Takes call)
    : ∃ lines after,
        outcome (log.take calls) before = (.ok (), after)
        ∧ after.textAt path = before.textAt path ++ String.join (lines.map (· ++ "\n"))
        ∧ List.Forall₂ (Records log) calls lines := by
  induction calls generalizing before opened with
  | nil => exact ⟨[], before, rfl, by simp, .nil⟩
  | cons call rest ih =>
      obtain ⟨halves, values, event, asks⟩ := each call List.mem_cons_self
      obtain ⟨line, written, some, printable, read⟩ :=
        line_of_storable storable halves (asks.isStorable values)
      obtain ⟨next, added⟩ := append_eq_ok_of_append opens (line ++ "\n")
      obtain ⟨done, stands, adds⟩ := write_adds has written added
      obtain ⟨opened, reopens⟩ := stands.append_eq_ok ""
      obtain ⟨lines, after, finished, text, records⟩ :=
        ih reopens fun one member => each one (List.mem_cons_of_mem _ member)
      have begun
          : outcome (do log.write call.1 (← call.2.event)) before = (.ok (), next) := by
        have understood : outcome (liftM call.2.event) before = (.ok event, before) := by
          rw [(EventRequest.event_eq_ok_iff values.apart).mpr asks]
          exact outcome_lift _ before
        exact (outcome_bind_ok understood).trans done
      have grown : next.textAt path = before.textAt path ++ (line ++ "\n") := by
        obtain ⟨added, mapped, grown⟩ := adds
        rw [List.mapM_cons, written] at mapped
        cases mapped
        rw [grown]
        simp
      refine ⟨line :: lines, after, (outcome_bind_ok begun).trans finished, ?_,
        .cons ⟨some, printable, event, asks, read⟩ records⟩
      rw [text, grown, List.map_cons, String.join_cons, String.append_assoc]

/-- Lines without line ends are told apart by the line ends between them. Witness: induction over
the lines.
-/
theorem splitOn_join {lines : List String} (none : ∀ line ∈ lines, '\n' ∉ line.toList)
    : (String.join (lines.map (· ++ "\n"))).toList.splitOn '\n'
      = lines.map String.toList ++ [[]] := by
  induction lines with
  | nil => rfl
  | cons line rest ih =>
      obtain ⟨first, others⟩ := List.forall_mem_cons.mp none
      have written
          : (String.join ((line :: rest).map (· ++ "\n"))).toList
            = line.toList ++ '\n' :: (String.join (rest.map (· ++ "\n"))).toList := by
        simp [String.join_cons]
      rw [written, List.splitOn_append_cons_self_of_not_mem first, ih others]
      rfl

/-- A log takes calls, and the file goes on with one line for each of them and nothing after the
last one. Every line is printable ASCII, and gives the event of its call back.
-/
theorem take_records {before opened : FileTree} {calls : List (Text × EventRequest)}
    (has : log.path = some path) (storable : log.IsStorable)
    (opens : before.append path "" = .ok opened) (each : ∀ call ∈ calls, Takes call)
    : ∃ added lines after,
        outcome (log.take calls) before = (.ok (), after)
        ∧ after.textAt path = before.textAt path ++ added
        ∧ added.toList.splitOn '\n' = lines.map String.toList ++ [[]]
        ∧ List.Forall₂ (Records log) calls lines := by
  obtain ⟨lines, after, done, text, records⟩ := take_adds has storable opens each
  refine ⟨_, lines, after, done, text, splitOn_join fun line member ends => ?_, records⟩
  obtain ⟨call, -, -, printable, -⟩ := exists_item_of_forall₂ records member
  exact absurd (printable _ ends) (by decide)

/-- (plainPath) is the file of the plain log. -/
def plainPath : Path := ⟨"", ["run.jsonl"]⟩

/-- (plainLog) is a log of an analysis without runs. -/
def plainLog : EventLog := ⟨"a", none, some plainPath⟩

/-- (lineEnds) is a text of line ends of several kinds, a quote, and half of a pair. -/
def lineEnds : Text :=
  ⟨[.char '\n', .char '\r', .char (Char.ofNat 0x85), .char (Char.ofNat 0x2028), .char '"',
    .half 0]⟩

/-- (noted) are fields with values of all kinds. -/
def noted : Json.Fields :=
  [("x", .text lineEnds), ("y", .array [.null, .int (-3)]), ("z", .object [("on", .bool true)])]

/-- (plainCalls) are calls of every kind, with arguments in order and by name. -/
def plainCalls : List (Text × EventRequest) :=
  [("1", ⟨.event, [.text "note"], noted⟩),
    ("2", ⟨.stageStart, [], [("stage", .text "s")]⟩),
    ("3", ⟨.stageEnd, [.text "s"], [("status", .text "failed")]⟩)]

theorem noted_isStorable : EventRequest.IsStorable ⟨.event, [.text "note"], noted⟩ := by
  have halves : ∀ name ∈ (["note", "on", "x", "y", "z"] : List Text), HalvesApart name := by
    decide +kernel
  constructor
  case arguments => exact List.forall_mem_singleton.mpr (.text (halves "note" (by decide)))
  case apart =>
    unfold Apart
    decide +kernel
  case named =>
    rw [noted, List.forall_mem_cons, List.forall_mem_cons, List.forall_mem_singleton]
    exact ⟨⟨_, rfl, halves "x" (by decide), by decide⟩,
      ⟨_, rfl, halves "y" (by decide), by decide⟩, ⟨_, rfl, halves "z" (by decide), by decide⟩⟩
  case values =>
    have small : Showable (-3) := by
      unfold Showable
      decide +kernel
    rw [noted, List.forall_mem_cons, List.forall_mem_cons, List.forall_mem_singleton]
    refine ⟨.text (by decide +kernel), .array ?_, .object (List.pairwise_singleton _ _) ?_ ?_⟩
    · exact List.forall_mem_cons.mpr ⟨.null, List.forall_mem_singleton.mpr (.int small)⟩
    · exact List.forall_mem_singleton.mpr ⟨_, rfl, halves "on" (by decide)⟩
    · exact List.forall_mem_singleton.mpr (.bool true)

/-- A request with a text as its only field can be stored. -/
theorem isStorable_of_text {announcement : Announcement} {arguments : List Json} {name s : Text}
    (given : ∀ value ∈ arguments, Storable fieldRoom value) (apart : HalvesApart name)
    (other : name ∉ reservedNames) (halves : HalvesApart s)
    : EventRequest.IsStorable ⟨announcement, arguments, [(.text name, .text s)]⟩ := by
  constructor
  case arguments => exact given
  case apart => exact List.pairwise_singleton _ _
  case named => exact List.forall_mem_singleton.mpr ⟨name, rfl, apart, other⟩
  case values => exact List.forall_mem_singleton.mpr (.text halves)

theorem plainLog_isStorable : plainLog.IsStorable :=
  ⟨by decide +kernel, nofun⟩

theorem plainCalls_takes : ∀ call ∈ plainCalls, Takes call := by
  have halves
      : ∀ name ∈ (["1", "2", "3", "s", "stage", "status", "failed"] : List Text),
          HalvesApart name := by
    decide +kernel
  have stage : HalvesApart "s" := halves "s" (by decide)
  rw [plainCalls, List.forall_mem_cons, List.forall_mem_cons, List.forall_mem_singleton]
  refine ⟨⟨halves "1" (by decide), noted_isStorable, ⟨.text "note", noted⟩, ?_⟩,
    ⟨halves "2" (by decide), ?_, .stageStart (.text "s") [], ?_⟩,
    ⟨halves "3" (by decide), ?_, .stageEnd (.text "s") (.text "failed") [], ?_⟩⟩
  · exact .event (.cons (.inOrder (by decide)) (.cons (.inOrder (by decide)) .nil))
  · exact isStorable_of_text (by simp) (halves "stage" (by decide)) (by decide) stage
  · have stageGiven : Operation.Takes "stage" [] [("stage", .text "s")] (some (.text "s")) [] [] :=
      @Operation.Takes.byName "stage" (.text "s") [] [] nofun
    exact .stageStart (.cons (.inOrder (by decide)) (.cons stageGiven .nil)) nofun
  · exact isStorable_of_text (List.forall_mem_singleton.mpr (.text stage))
      (halves "status" (by decide)) (by decide) (halves "failed" (by decide))
  · have statusGiven
        : Operation.Takes "status" [] [("status", .text "failed")] (some (.text "failed")) [] [] :=
      @Operation.Takes.byName "status" (.text "failed") [] [] nofun
    exact .stageEnd (.cons (.inOrder (by decide))
      (.cons (.inOrder (by decide)) (.cons statusGiven .nil))) nofun

/-- Calls of every kind are recorded in a new file. -/
theorem take_records_plain
    : (∃ opened, FileTree.empty.append plainPath "" = .ok opened)
      ∧ (∀ call ∈ plainCalls, Takes call)
      ∧ ∃ added lines after,
          outcome (plainLog.take plainCalls) .empty = (.ok (), after)
          ∧ after.textAt plainPath = FileTree.empty.textAt plainPath ++ added
          ∧ added.toList.splitOn '\n' = lines.map String.toList ++ [[]]
          ∧ List.Forall₂ (Records plainLog) plainCalls lines := by
  have opens : (FileTree.empty.append plainPath "").isOk = true := by decide +kernel
  cases opened : FileTree.empty.append plainPath "" with
  | error fault => simp [opened, Except.isOk, Except.toBool] at opens
  | ok tree =>
      have recorded := take_records rfl plainLog_isStorable opened plainCalls_takes
      exact ⟨⟨tree, rfl⟩, plainCalls_takes, recorded⟩

-----------------------------------------------------------------------------------------
-- What is not recorded
-----------------------------------------------------------------------------------------

/-- (eventWith value) is an event with one field. -/
def eventWith (value : Json) : Event := ⟨.text "e", [("x", value)]⟩

/-- (asking value) is a request for that event. -/
def asking (value : Json) : EventRequest := ⟨.event, [.text "e"], [("x", value)]⟩

/-- An event without a line stops the calls, and leaves nothing in the file. -/
theorem take_error {value : Json} {fault : Fault}
    (refused : plainLog.line "t" (eventWith value) = .error fault) (tree : FileTree)
    : outcome (plainLog.take [("t", asking value)]) tree = (.error fault, tree) := by
  have free {name : Text} (other : Scalar.text "x" ≠ .text name)
      : Operation.IsFree name [("x", value)] :=
    List.forall_mem_singleton.mpr other
  have asks : (asking value).Asks (eventWith value) :=
    .event (.cons (.inOrder (free (by decide))) (.cons (.inOrder (free (by decide))) .nil))
  have understood : outcome (liftM (asking value).event) tree = (.ok (eventWith value), tree) := by
    rw [asks.event_eq]
    exact outcome_lift _ tree
  have written
      : outcome (plainLog.write "t" (eventWith value)) tree = (.error fault, tree) := by
    have adds
        : plainLog.write "t" (eventWith value)
          = FileEdit.change fun tree =>
              (do tree.append plainPath (← plainLog.line "t" (eventWith value))) :=
      rfl
    rw [adds, FileEdit.outcome_change, refused]
    rfl
  exact outcome_bind_error ((outcome_bind_ok understood).trans written)

/-- (opening rest) goes on with `rest` after the fields that the plain log writes before the field
of such an event.
-/
def opening (rest : List Char) : List Char :=
  writtenField "ts" (asciiText "t") ++ ',' :: ' '
    :: (writtenField "event_type" (asciiText "e") ++ ',' :: ' '
      :: (writtenField "analysis_id" (asciiText "a") ++ ',' :: ' ' :: rest))

theorem line_eventWith (value : Json)
    : plainLog.line "t" (eventWith value)
      = (compactChars fieldRoom value.spread).map fun chars =>
          String.ofList ('\x7b' :: opening (writtenField "x" (chars ++ ['\x7d']))) ++ "\n" := by
  have spread
      : (plainLog.document "t" (eventWith value)).spread
        = .object [("ts", .text "t"), ("event_type", .text "e"), ("analysis_id", .text "a"),
            ("x", value.spread)] := by
    rfl
  have room : depthLimit = fieldRoom + 1 := rfl
  rw [EventLog.line, compact, spread, room]
  cases written : compactChars fieldRoom value.spread with
  | error fault =>
      simp only [compactChars, compactFields, written]
      rfl
  | ok chars =>
      simp only [compactChars, compactFields, written]
      rfl

/-- (tooLong) is the least integer with too many digits. -/
def tooLong : Int := Int.ofNat (Nat.pow 10 Fault.numeralLimit)

theorem not_showable_tooLong : ¬Showable tooLong := by
  have long {n : Nat} (many : Nat.pow 10 Fault.numeralLimit ≤ n) : ¬Showable (Int.ofNat n) :=
    Nat.not_lt.mpr many
  exact long (Nat.le_refl _)

/-- An event with too long an integer has no line. -/
theorem line_long {n : Int} (long : ¬Showable n)
    : plainLog.line "t" (eventWith (.int n)) = .error .integerTooLongToShow := by
  have refused : compactChars fieldRoom (Json.int n).spread = .error .integerTooLongToShow := by
    have none : Text.ofInt n = .error .integerTooLongToShow := ofInt_of_not_showable long
    exact (compactChars_int fieldRoom n).trans (congrArg (Except.map asciiOf) none)
  rw [line_eventWith, refused]
  rfl

/-- (halves) are the two halves of a pair side by side. -/
def halves : Text := ⟨[.half 0, .half 0x400]⟩

/-- (pair) is their character. -/
def pair : Text := ⟨[.char (Char.ofNat 0x10000)]⟩

/-- Two halves of a pair have the line of their character, which is read from it. -/
theorem line_halves
    : ∃ line,
        plainLog.line "t" (eventWith (.text halves)) = .ok (line ++ "\n")
        ∧ parse line
          = .ok (.object
              (plainLog.heading "t" (.text "e") ++ (eventWith (.text pair)).fields)) := by
  have same : asciiText halves = asciiText pair := by decide +kernel
  have written (s : Text) : compactChars fieldRoom (Json.text s).spread = .ok (asciiText s) :=
    compactChars_text fieldRoom s
  have apart : HalvesApart "t" ∧ HalvesApart "e" ∧ HalvesApart "x" ∧ HalvesApart pair := by
    decide +kernel
  have stored : (eventWith (.text pair)).IsStorable := by
    constructor
    case type => exact .text apart.2.1
    case apart => exact List.pairwise_singleton _ _
    case named => exact List.forall_mem_singleton.mpr ⟨"x", rfl, apart.2.2.1, by decide⟩
    case values => exact List.forall_mem_singleton.mpr (.text apart.2.2.2)
  obtain ⟨line, told, -, -, read⟩ := line_of_storable plainLog_isStorable apart.1 stored
  refine ⟨line, ?_, read⟩
  rw [line_eventWith, written, same, ← written, ← line_eventWith, told]

/-- An event that is nested too deep has no line. -/
theorem line_deep
    : plainLog.line "t" (eventWith (nested fieldRoom)) = .error .nestedTooDeepToWrite := by
  rw [line_eventWith, (nested_storable fieldRoom).spread_eq, compactChars_nested]
  rfl

/-- Calls are lost. One whose field has the name of an argument of the operation that it calls for
is not understood. An integer with too many digits is not written, and neither is what is nested too
deep. Two halves of a pair side by side are read as their character.
-/
theorem take_loses
    : outcome
          (plainLog.take
            [("t", ⟨.stageStart, [.text "s"], [("event_type", .text "stage.start")]⟩)])
          .empty
        = (.error (.repeatedArgument "EventLogger.log" "event_type"), .empty)
      ∧ outcome (plainLog.take [("t", asking (.int tooLong))]) .empty
        = (.error .integerTooLongToShow, .empty)
      ∧ outcome (plainLog.take [("t", asking (nested fieldRoom))]) .empty
        = (.error .nestedTooDeepToWrite, .empty)
      ∧ ∃ line,
          plainLog.line "t" (eventWith (.text halves)) = .ok (line ++ "\n")
          ∧ parse line
            = .ok (.object
                (plainLog.heading "t" (.text "e") ++ (eventWith (.text pair)).fields)) := by
  exact ⟨rfl, take_error (line_long not_showable_tooLong) .empty, take_error line_deep .empty,
    line_halves⟩

end EventLog

end ArkLifecycle
