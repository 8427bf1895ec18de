import ArkLifecycle.Export.Markdown
import ArkLifecycle.Proofs.Analysis.Results
import ArkLifecycle.Proofs.Coverage.History
import ArkLifecycle.Proofs.Json.Numerals

/-! Exports of data flows agree with the snapshot, and lose nothing.

A tracker counts the flows of a source one by one, and an export puts them together in groups. Both
rank the same sources with the same numbers. Inside of a group the flows are put together once
more, by their targets. The text can be written if the lines that it shows can.
-/

namespace ArkLifecycle

open Activity

namespace Export

-----------------------------------------------------------------------------------------
-- Flows in groups
-----------------------------------------------------------------------------------------

/-- The groups part the flows by a key. Every group has all flows with its key, in their order, and
the groups are ranked by their sizes, those of one size by their first flows.
-/
structure Parts (key : DataFlow → Text) (flows : List DataFlow)
    (groups : List (Text × List DataFlow))
    : Prop where
  keys : ∀ name, name ∈ groups.map Prod.fst ↔ ∃ flow ∈ flows, key flow = name
  once : (groups.map Prod.fst).Nodup
  own : ∀ group ∈ groups, group.2 = flows.filter fun flow => key flow = group.1
  ranked
    : Ranks (fun group => group.2.length)
        (fun group => flows.findIdx fun flow => key flow = group.1) groups

section Parting

variable {key : DataFlow → Text} {flows : List DataFlow} {groups : List (Text × List DataFlow)}

/-- Among names that do not repeat, one name is met at most once. -/
theorem flatMap_ite_of_nodup {α β : Type} [DecidableEq α] {names : List α} (once : names.Nodup)
    (name : α) (some : List β)
    : (names.flatMap fun other => if other = name then some else [])
      = if name ∈ names then some else [] := by
  induction names with
  | nil => rfl
  | cons other rest ih =>
      obtain ⟨apart, later⟩ := List.nodup_cons.mp once
      rw [List.flatMap_cons, ih later]
      by_cases same : other = name
      · subst same
        rw [if_pos rfl, if_neg apart, if_pos List.mem_cons_self, List.append_nil]
      · rw [if_neg same, List.nil_append]
        simp only [List.mem_cons, Ne.symm same, false_or]

/-- The flows with one key stand together in one group, in their order.
Witness: each group has only flows with its own key, and no other group has that key.
-/
theorem Parts.filter_flatMap (parts : Parts key flows groups) (name : Text)
    : (groups.flatMap Prod.snd).filter (fun flow => key flow = name)
      = flows.filter fun flow => key flow = name := by
  have mine (group : Text × List DataFlow) (member : group ∈ groups)
      : group.2.filter (fun flow => key flow = name)
        = if group.1 = name then flows.filter (fun flow => key flow = name) else [] := by
    rw [parts.own group member, List.filter_filter]
    split
    · next same => simp only [same, Bool.and_self]
    · next other =>
        refine List.filter_eq_nil_iff.mpr fun flow _ => ?_
        simp only [Bool.and_eq_true, decide_eq_true_eq, not_and]
        exact fun this that => other (that.symm.trans this)
  calc (groups.flatMap Prod.snd).filter (fun flow => key flow = name)
    _ = groups.flatMap fun group => group.2.filter fun flow => key flow = name :=
        List.filter_flatMap
    _ = groups.flatMap fun group =>
          if group.1 = name then flows.filter (fun flow => key flow = name) else [] :=
        List.flatMap_congr mine
    _ = (groups.map Prod.fst).flatMap fun other =>
          if other = name then flows.filter (fun flow => key flow = name) else [] :=
        by rw [List.flatMap_map]
    _ = if name ∈ groups.map Prod.fst then flows.filter (fun flow => key flow = name) else [] :=
        flatMap_ite_of_nodup parts.once name _
    _ = flows.filter fun flow => key flow = name := by
        split
        · rfl
        · next unknown =>
            refine (List.filter_eq_nil_iff.mpr fun flow member same => unknown ?_).symm
            exact (parts.keys name).mpr ⟨flow, member, of_decide_eq_true same⟩

/-- No flow is lost and none is added.
Witness: a flow is as often in all groups together as among those with its key.
-/
theorem Parts.perm (parts : Parts key flows groups) : (groups.flatMap Prod.snd).Perm flows := by
  classical
  refine List.perm_iff_count.mpr fun flow => ?_
  have own {some : List DataFlow}
      : some.count flow = (some.filter fun other => key other = key flow).count flow :=
    (List.count_filter (p := fun other => decide (key other = key flow)) (by simp)).symm
  rw [own, parts.filter_flatMap, ← own]

theorem parts_ranked_groupBy (key : DataFlow → Text) (flows : List DataFlow)
    : Parts key flows (ranked (groupBy key flows)) := by
  have perm : (ranked (groupBy key flows)).Perm (groupBy key flows) := rankBy_perm _ _
  have names : (groupBy key flows).map Prod.fst = (flows.map key).eraseDups := by
    rw [groupBy, List.map_map, CallGraph.distinct_eq_eraseDups]
    exact List.map_id _
  constructor
  case keys =>
    intro name
    rw [(perm.map _).mem_iff, names, List.mem_eraseDups, List.mem_map]
  case once =>
    rw [(perm.map _).nodup_iff, names]
    exact eraseDups_nodup _
  case own =>
    intro group member
    obtain ⟨name, -, rfl⟩ := List.mem_map.mp (perm.mem_iff.mp member)
    exact List.filter_congr fun flow _ => beq_eq_decide _ _
  case ranked =>
    have ordered := pairwise_findIdx_eraseDups (some ∘ key) flows
    rw [List.filterMap_eq_map, ← names] at ordered
    refine rankBy_ranks ((List.pairwise_map.mp ordered).imp fun before => ?_)
    simpa only [Function.comp_apply, Option.some.injEq] using before

/-- The sizes of the groups are the numbers of flows with their keys. -/
theorem map_ranked_groupBy (key : DataFlow → Text) (flows : List DataFlow)
    : (ranked (groupBy key flows)).map (fun group => (group.1, group.2.length))
      = rankBy Prod.snd
          ((flows.map key).eraseDups.map fun name => (name, (flows.map key).count name)) := by
  have counted (name : Text)
      : (flows.filter fun flow => key flow == name).length = (flows.map key).count name := by
    rw [List.count, List.countP_map, List.countP_eq_length_filter]
    rfl
  rw [ranked, map_rankBy (fun group : Text × List DataFlow => (group.1, group.2.length)) Prod.snd,
    groupBy, List.map_map, CallGraph.distinct_eq_eraseDups]
  refine congrArg _ (List.map_congr_left fun name _ => ?_)
  rw [Function.comp_apply, counted]

end Parting

-----------------------------------------------------------------------------------------
-- Documents
-----------------------------------------------------------------------------------------

/-- What a document says about one method. Its flows have the method as where they come from. -/
structure MethodEntry where
  method : Json
  flowCount : Json
  flows : List Json

/-- (fromSource source flow) says where a flow comes from. -/
def fromSource (source : Json) : Json → Json
  | .object fields => .object (("from", source) :: fields)
  | flow => flow

/-- (readEntry entry) is what a part of a document says about a method. -/
def readEntry (entry : Json) : Except Fault MethodEntry := do
  let method ← entry.part "method"
  let flowCount ← entry.part "flowCount"
  let flows ← (← entry.part "flows").items
  return { method, flowCount, flows := flows.map (fromSource method) }

/-- (readDocument document) is what a document says about the methods, and about all flows. -/
def readDocument (document : Json) : Except Fault (List MethodEntry × List Json) := do
  let groups ← (← document.part "dataFlowsByMethod").items
  let flows ← (← document.part "allFlows").items
  return (← groups.mapM readEntry, flows)

/-- (entryOf group) is what is said about a group. -/
def entryOf (group : Text × List DataFlow) : MethodEntry where
  method := .text group.1
  flowCount := .ofNat group.2.length
  flows := group.2.map DataFlow.toJson

theorem readEntry_groupJson {group : Text × List DataFlow}
    (own : ∀ flow ∈ group.2, flow.source = group.1)
    : readEntry (groupJson group) = .ok (entryOf group) := by
  have flows : (group.2.map flowInGroup).map (fromSource (.text group.1))
      = group.2.map DataFlow.toJson := by
    rw [List.map_map]
    refine List.map_congr_left fun flow member => ?_
    rw [DataFlow.toJson, own flow member]
    rfl
  rw [entryOf, ← flows]
  rfl

/-- A document says what the groups are, and repeats all flows. -/
theorem readDocument_dataFlowJson (listing : FlowListing) (timestamp : Text)
    : readDocument (dataFlowJson listing timestamp)
      = .ok ((ranked (bySource listing.flows)).map entryOf, listing.flows.map DataFlow.toJson) := by
  have read
      : ((ranked (bySource listing.flows)).map groupJson).mapM readEntry
        = .ok ((ranked (bySource listing.flows)).map entryOf) := by
    refine mapM_map_eq_ok fun group member => readEntry_groupJson fun flow inside => ?_
    rw [(parts_ranked_groupBy DataFlow.source listing.flows).own group member] at inside
    exact of_decide_eq_true (List.mem_filter.mp inside).2
  have opened
      : readDocument (dataFlowJson listing timestamp)
        = (((ranked (bySource listing.flows)).map groupJson).mapM readEntry).map fun entries =>
            (entries, listing.flows.map DataFlow.toJson) := by
    change (do
      let entries ← ((ranked (bySource listing.flows)).map groupJson).mapM readEntry
      return (entries, listing.flows.map DataFlow.toJson)) = _
    rw [read]
    rfl
  rw [opened, read]
  rfl

-----------------------------------------------------------------------------------------
-- Tables
-----------------------------------------------------------------------------------------

/-- How often a method calls a target, and where first. -/
structure TargetUse where
  target : Text
  calls : Nat
  line : Int

/-- The table lists the targets of some flows once each, ranked by their numbers of flows, and those
with equally many by their first flows.
-/
structure Tabulates (flows : List DataFlow) (table : List TargetUse) : Prop where
  rows
    : ∀ target calls line,
        ⟨target, calls, line⟩ ∈ table
        ↔ ∃ first,
            flows.find? (fun flow => flow.target = target) = some first
            ∧ calls = flows.countP (fun flow => flow.target = target)
            ∧ line = first.line
  once : (table.map TargetUse.target).Nodup
  ranked
    : Ranks TargetUse.calls (fun use => flows.findIdx fun flow => flow.target = use.target) table

/-- (useOf group) tells of the flows to one target. -/
def useOf (group : Text × List DataFlow) : TargetUse where
  target := group.1
  calls := group.2.length
  line := (group.2.head?.map DataFlow.line).getD 0

/-- (usesOf flows) are the targets of some flows as they are ranked. -/
def usesOf (flows : List DataFlow) : List TargetUse :=
  (ranked (byTarget flows)).map useOf

theorem tabulates_usesOf (flows : List DataFlow) : Tabulates flows (usesOf flows) := by
  have parts := parts_ranked_groupBy DataFlow.target flows
  have told {group : Text × List DataFlow} (member : group ∈ ranked (byTarget flows))
      : ∃ first,
          flows.find? (fun flow => flow.target = group.1) = some first
          ∧ useOf group
            = ⟨group.1, flows.countP fun flow => flow.target = group.1, first.line⟩ := by
    obtain ⟨flow, inside, same⟩ := (parts.keys group.1).mp (List.mem_map_of_mem member)
    have listed : (flows.find? fun flow => flow.target = group.1).isSome = true :=
      List.find?_isSome.mpr ⟨flow, inside, decide_eq_true same⟩
    obtain ⟨first, found⟩ := Option.isSome_iff_exists.mp listed
    refine ⟨first, found, ?_⟩
    rw [useOf, parts.own group member, List.head?_filter, found, List.countP_eq_length_filter]
    rfl
  constructor
  case rows =>
    intro target calls line
    rw [usesOf, List.mem_map]
    constructor
    · rintro ⟨group, member, same⟩
      obtain ⟨first, found, use⟩ := told member
      rw [use] at same
      cases same
      exact ⟨first, found, rfl, rfl⟩
    · rintro ⟨first, found, rfl, rfl⟩
      have named : first.target = target := by simpa using List.find?_some found
      obtain ⟨group, member, rfl⟩ :=
        List.mem_map.mp ((parts.keys target).mpr ⟨first, List.mem_of_find?_eq_some found, named⟩)
      obtain ⟨other, also, use⟩ := told member
      rw [found] at also
      cases also
      exact ⟨group, member, use⟩
  case once =>
    rw [usesOf, List.map_map]
    exact parts.once
  case ranked => exact List.pairwise_map.mpr parts.ranked

/-- (rankLine rank entry) is the row of a method with its number of flows. -/
def rankLine (rank : Nat) (entry : Text × Nat) : Text :=
  "| " ++ toString rank ++ " | " ++ entry.1 ++ " | " ++ toString entry.2 ++ " |"

/-- (targetLine use) is the row of a target. -/
def targetLine (use : TargetUse) : Text :=
  "| " ++ cell use.target ++ " | " ++ toString use.calls ++ " | " ++ toString use.line ++ " |"

/-- (rankHead) is the beginning of the ranking of methods. -/
def rankHead : List Text :=
  ["## Top Methods by Data Flow (Top 20)", "", "| Rank | Method | Data Flows |",
    "|------|--------|------------|"]

/-- (detailsHead) stands between the ranking and the sections about methods. -/
def detailsHead : List Text := ["", "## Data Flow Details", ""]

/-- (detailHead method flows) is the beginning of the section about a method. -/
def detailHead (method : Text) (flows : List DataFlow) : List Text :=
  ["### " ++ method, "", "**Data flows**: " ++ toString flows.length, "",
    "| Target | Calls | Example Line |", "|--------|-------|--------------|"]

/-- (detailEnd) is the end of a section. -/
def detailEnd : List Text := [""]

/-- (detailLines group table) is the section about a method: the first ten rows of a table of its
targets.
-/
def detailLines (group : Text × List DataFlow) (table : List TargetUse) : List Text :=
  detailHead group.1 group.2 ++ (table.take 10).map targetLine ++ detailEnd

-----------------------------------------------------------------------------------------
-- When the text can be written
-----------------------------------------------------------------------------------------

/-- Items are gone through without a fault if all of them are fine. Witness: induction over the
items.
-/
theorem mapM_eq_ite {α β ε : Type} {action : α → Except ε β} (fine : α → Prop)
    [DecidablePred fine] (result : α → β) {fault : ε} {items : List α}
    (each
      : ∀ item ∈ items, action item = if fine item then .ok (result item) else .error fault)
    : items.mapM action
      = if ∀ item ∈ items, fine item then .ok (items.map result) else .error fault := by
  induction items with
  | nil => rfl
  | cons item rest ih =>
      obtain ⟨first, later⟩ := List.forall_mem_cons.mp each
      rw [List.mapM_cons, first, ih later]
      by_cases here : fine item
      · by_cases there : ∀ other ∈ rest, fine other
        · rw [if_pos here, if_pos there, if_pos (List.forall_mem_cons.mpr ⟨here, there⟩)]
          rfl
        · rw [if_pos here, if_neg there,
            if_neg fun all => there (List.forall_mem_cons.mp all).2]
          rfl
      · rw [if_neg here, if_neg fun all => here (List.forall_mem_cons.mp all).1]
        rfl

theorem targetRow_eq_ite {group : Text × List DataFlow} (some : group.2 ≠ [])
    : targetRow group
      = if Showable (useOf group).line then .ok (targetLine (useOf group))
        else .error .integerTooLongToShow := by
  obtain ⟨first, rest, same⟩ := List.exists_cons_of_ne_nil some
  have line : (useOf group).line = first.line := by rw [useOf, same]; rfl
  have shown : exampleLine group.2 = Text.ofInt first.line := by
    rw [same, exampleLine, Datum.shown_int]
  rw [targetRow, Datum.shown_text, shown, targetLine, line]
  split
  · next showable =>
      rw [showable.ofInt_eq]
      rfl
  · next long =>
      rw [ofInt_of_not_showable long]
      rfl

/-- The rows of a section tell of the first ten targets, if their lines can be shown. -/
theorem targetRows_eq_ite (flows : List DataFlow)
    : targetRows flows
      = if ∀ use ∈ (usesOf flows).take 10, Showable use.line then
          .ok (((usesOf flows).take 10).map targetLine)
        else
          .error .integerTooLongToShow := by
  have parts := parts_ranked_groupBy DataFlow.target flows
  have each (part : Text × List DataFlow) (member : part ∈ (ranked (byTarget flows)).take 10)
      : targetRow part
        = if Showable (useOf part).line then .ok (targetLine (useOf part))
          else .error .integerTooLongToShow := by
    have known := List.mem_of_mem_take member
    obtain ⟨flow, inside, same⟩ := (parts.keys part.1).mp (List.mem_map_of_mem known)
    refine targetRow_eq_ite ?_
    rw [parts.own part known]
    exact List.ne_nil_of_mem (List.mem_filter.mpr ⟨inside, decide_eq_true same⟩)
  have rows := mapM_eq_ite (fun part => Showable (useOf part).line)
    (fun part => targetLine (useOf part)) each
  rw [usesOf, ← List.map_take, List.map_map]
  simp only [List.forall_mem_map]
  exact rows

theorem detail_eq_ite (group : Text × List DataFlow)
    : detail group
      = if ∀ use ∈ (usesOf group.2).take 10, Showable use.line then
          .ok (detailLines group (usesOf group.2))
        else
          .error .integerTooLongToShow := by
  rw [detail, Datum.shown_text, targetRows_eq_ite]
  split <;> rfl

/-- The ranking can always be written. -/
theorem rankRows_eq_ok (groups : List (Text × List DataFlow))
    : rankRows groups
      = .ok (((groups.map fun group => (group.1, group.2.length)).zipIdx 1).map fun row =>
          rankLine row.2 row.1) := by
  have rows
      : rankRows groups
        = (groups.zipIdx 1).mapM fun row => pure (rankLine row.2 (row.1.1, row.1.2.length)) :=
    rfl
  rw [rows, List.mapM_pure, List.zipIdx_map, List.map_map]
  rfl

/-- Where there is a flow, there is a source of flows. -/
theorem bySource_ne_nil {flows : List DataFlow} (present : flows ≠ []) : bySource flows ≠ [] := by
  obtain ⟨flow, member⟩ := List.exists_mem_of_ne_nil flows present
  have source : flow.source ∈ (flows.map DataFlow.source).eraseDups :=
    List.mem_eraseDups.mpr (List.mem_map_of_mem member)
  rw [← CallGraph.distinct_eq_eraseDups] at source
  exact List.map_eq_nil_iff.not.mpr (List.ne_nil_of_mem source)

/-- Where there are flows, the statistics can be written: nothing is divided by zero. -/
theorem statistics_eq_ok {listing : FlowListing} (some : listing.flows ≠ [])
    : ∃ ending, statistics listing = .ok ending := by
  have methods : (bySource listing.flows).length ≠ 0 := fun none =>
    bySource_ne_nil some (List.length_eq_zero_iff.mp none)
  rw [statistics, perMethod, if_neg methods]
  exact ⟨_, rfl⟩

/-- The text of some flows has the first twenty groups as its ranking, and sections about the first
ten of them. It can be written if the lines in these sections can be shown.
-/
theorem markdownLines_eq_ite {listing : FlowListing} {ending : List Text}
    (some : listing.flows ≠ []) (ends : statistics listing = .ok ending) (timestamp : Text)
    : markdownLines listing timestamp
      = if ∀ group ∈ (ranked (bySource listing.flows)).take 10,
            ∀ use ∈ (usesOf group.2).take 10, Showable use.line then
          .ok (overview listing timestamp
            ++ rankHead
            ++ ((((ranked (bySource listing.flows)).map fun group =>
                (group.1, group.2.length)).take 20).zipIdx 1).map
              (fun row => rankLine row.2 row.1)
            ++ detailsHead
            ++ (((ranked (bySource listing.flows)).take 10).map fun group =>
              detailLines group (usesOf group.2)).flatten
            ++ ending)
        else
          .error .integerTooLongToShow := by
  have listed : listing.flows.isEmpty = false := by simpa using some
  have sections
      : (((ranked (bySource listing.flows)).take rankedMethods).take detailedMethods).mapM detail
        = if ∀ group ∈ (ranked (bySource listing.flows)).take 10,
              ∀ use ∈ (usesOf group.2).take 10, Showable use.line then
            .ok (((ranked (bySource listing.flows)).take 10).map fun group =>
              detailLines group (usesOf group.2))
          else
            .error .integerTooLongToShow := by
    rw [List.take_take]
    exact mapM_eq_ite
      (fun group : Text × List DataFlow => ∀ use ∈ (usesOf group.2).take 10, Showable use.line)
      (fun group => detailLines group (usesOf group.2)) fun group _ => detail_eq_ite group
  rw [markdownLines, listed, if_neg Bool.false_ne_true, ends]
  dsimp only
  rw [rankRows_eq_ok, sections, List.map_take]
  split <;> rfl

/-- The text of flows whose lines can be shown can be written. -/
theorem markdown_eq_ok {listing : FlowListing}
    (showable : ∀ flow ∈ listing.flows, Showable flow.line) (timestamp : Text)
    : ∃ text, markdown listing timestamp = .ok text := by
  by_cases none : listing.flows = []
  · have listed : listing.flows.isEmpty = true := List.isEmpty_iff.mpr none
    rw [markdown, markdownLines, listed]
    exact ⟨_, rfl⟩
  · obtain ⟨ending, ends⟩ := statistics_eq_ok none
    have parts := parts_ranked_groupBy DataFlow.source listing.flows
    have shown
        : ∀ group ∈ (ranked (bySource listing.flows)).take 10,
            ∀ use ∈ (usesOf group.2).take 10, Showable use.line := by
      intro group member use among
      obtain ⟨first, found, -, line⟩ :=
        ((tabulates_usesOf group.2).rows use.target use.calls use.line).mp
          (List.mem_of_mem_take among)
      have inside := List.mem_of_find?_eq_some found
      rw [parts.own group (List.mem_of_mem_take member)] at inside
      rw [line]
      exact showable first (List.mem_filter.mp inside).1
    rw [markdown, markdownLines_eq_ite none ends, if_pos shown]
    exact ⟨_, rfl⟩

-----------------------------------------------------------------------------------------
-- Whole exports
-----------------------------------------------------------------------------------------

/-- The exports of a result agree with its flows, and with its snapshot on how these are ranked. -/
structure Agrees (result : Analysis) (timestamp : Text) (groups : List (Text × List DataFlow))
    : Prop where
  parts : Parts DataFlow.source result.flows groups
  ranking : groups.map (fun group => (group.1, group.2.length)) = result.snapshot.byFlows
  whole : (groups.flatMap Prod.snd).Perm result.flows
  order
    : ∀ source,
        (groups.flatMap Prod.snd).filter (fun flow => flow.source = source)
        = result.flows.filter fun flow => flow.source = source
  document
    : ∃ entries,
        readDocument (dataFlowJson result.listing timestamp)
          = .ok (entries, result.flows.map DataFlow.toJson)
        ∧ entries.map (fun entry => (entry.method, entry.flowCount))
          = result.snapshot.byFlows.map (fun entry => (.text entry.1, .ofNat entry.2))
        ∧ entries.map MethodEntry.flows
          = groups.map fun group => group.2.map DataFlow.toJson
  text
    : result.flows ≠ []
      → ∃ tables ending,
          List.Forall₂ (fun group table => Tabulates group.2 table) (groups.take 10) tables
          ∧ statistics result.listing = .ok ending
          ∧ markdown result.listing timestamp
            = if ∀ table ∈ tables, ∀ use ∈ table.take 10, Showable use.line then
                .ok (Text.joinWith "\n"
                    (overview result.listing timestamp
                      ++ rankHead
                      ++ ((result.snapshot.byFlows.take 20).zipIdx 1).map
                        (fun row => rankLine row.2 row.1)
                      ++ detailsHead
                      ++ (List.zipWith detailLines (groups.take 10) tables).flatten
                      ++ ending)
                  ++ "\n")
              else
                .error .integerTooLongToShow
  noText
    : result.flows = []
      → markdown result.listing timestamp
        = .ok (Text.joinWith "\n"
            (overview result.listing timestamp
              ++ ["No data flows extracted (status: " ++ result.flowStatus ++ ")."])
          ++ "\n")

/-- What an analysis gives is exported as it was counted, and no flow is lost.
Witness: the snapshot and the exports rank the same sources by the same numbers of flows.
-/
theorem agrees_of_run {host : Host} {program : Program} {catalog : Catalog}
    {options : AnalysisOptions} {before after : Session} {result : Analysis}
    (done : outcome (Analysis.run host program catalog options) before = (.ok result, after))
    (timestamp : Text)
    : ∃ groups, Agrees result timestamp groups := by
  have parts := parts_ranked_groupBy DataFlow.source result.flows
  have ranking
      : (ranked (bySource result.flows)).map (fun group => (group.1, group.2.length))
        = result.snapshot.byFlows := by
    rw [bySource, map_ranked_groupBy, Analysis.snapshot_of_run done, Tracker.byFlows_after]
  refine ⟨ranked (bySource result.flows), ?_⟩
  constructor
  case parts => exact parts
  case ranking => exact ranking
  case whole => exact parts.perm
  case order => exact parts.filter_flatMap
  case document =>
    refine ⟨_, readDocument_dataFlowJson result.listing timestamp, ?_, ?_⟩
    · rw [← ranking, List.map_map, List.map_map]
      rfl
    · rw [List.map_map]
      rfl
  case text =>
    intro some
    have listed : result.listing.flows ≠ [] := some
    obtain ⟨ending, ends⟩ := statistics_eq_ok listed
    refine ⟨((ranked (bySource result.flows)).take 10).map fun group => usesOf group.2, ending,
      ?_, ends, ?_⟩
    · refine List.forall₂_map_right_iff.mpr (List.forall₂_same.mpr fun group _ => ?_)
      exact tabulates_usesOf group.2
    · have same : result.listing.flows = result.flows := rfl
      rw [markdown, markdownLines_eq_ite listed ends, same, ← ranking, List.zipWith_map_right,
        List.zipWith_self]
      simp only [List.forall_mem_map]
      split <;> rfl
  case noText =>
    intro none
    have listed : result.listing.flows.isEmpty = true := List.isEmpty_iff.mpr none
    rw [markdown, markdownLines, listed]
    rfl

/-- (caller) is an ability with one callback, which calls one target twice and another in between.
-/
def caller : ClassDecl :=
  let body : Cfg := ⟨[⟨0, [
    ⟨"invoke b.load()", 2, 0, []⟩,
    ⟨"invoke c.save()", 3, 0, []⟩,
    ⟨"invoke b.load()", 4, 0, []⟩]⟩]⟩
  let decl := Analysis.abilityNamed "A"
  { decl with methods := decl.methods.map fun method => { method with cfg := some body } }

/-- The exports of an analysis of a callback with several calls, one of which is made twice, agree
with it.
-/
theorem agrees_of_run_caller
    : ∃ result after,
        outcome
            (Analysis.run .willing (.ofFiles [⟨"a.ets", [caller]⟩]) .standard
              ⟨.bool true, 1, none, .lifecycle, none, List.range⟩)
            .fresh
          = (.ok result, after)
        ∧ ∃ groups, Agrees result "2024-01-01" groups := by
  have accepting : Host.willing.Accepting := fun _ => rfl
  have fair : AnalysisOptions.Fair ⟨.bool true, 1, none, .lifecycle, none, List.range⟩ :=
    fun tasks => .refl (List.range tasks)
  obtain ⟨result, after, done⟩ := Analysis.run_ends Catalog.standard_texts accepting
    (.ofFiles [⟨"a.ets", [caller]⟩]) fair rfl .fresh
  exact ⟨result, after, done, agrees_of_run done "2024-01-01"⟩

end Export

end ArkLifecycle
