import ArkLifecycle.Proofs.Coverage.Ranking

/-! What a snapshot tells of the calls that a tracker was given.

Records and flows may come in any order. A snapshot shows one statistic for every name of the
catalog, and ranks the names that are used and the sources of flows. All of it is told from the
history of calls alone.
-/

namespace ArkLifecycle

-----------------------------------------------------------------------------------------
-- Snapshots of a history
-----------------------------------------------------------------------------------------

/-- (firstUse records entry) is the place of the first record of a name of some kind. -/
def firstUse (records : List Record) (entry : Kind × Text) : Nat :=
  records.findIdx fun record => record.CountsFor entry.1 (.text entry.2)

/-- A statistic tells of the records of its name: how many there are and how many of them have an
implementation, and their classes and files in the order of first appearance.
-/
structure CoverageStat.Tells (stat : CoverageStat) (mine : List Record) : Prop where
  usageCount : stat.usageCount = mine.length
  implementedCount : stat.implementedCount = (mine.filter Record.hasImplementation).length
  classes : stat.classes = (mine.map Record.className).eraseDups
  files : stat.files = (mine.map Record.filePath).eraseDups
  used : 0 < stat.usageCount ↔ stat.classes ≠ []
  implemented : stat.implementedCount ≤ stat.usageCount

/-- A snapshot tells of the records and of the sources of flows that were counted. -/
structure Snapshot.Tells (catalog : Catalog) (records : List Record) (sources : List Text)
    (snapshot : Snapshot)
    : Prop where
  kinds
    : snapshot.coverage.map Prod.fst = Kind.all.filter fun kind => catalog.names kind ≠ []
  names : ∀ kind, (snapshot.stats kind).map CoverageStat.name = catalog.names kind
  once
    : ∀ kind,
        ∀ name ∈ catalog.names kind,
          (snapshot.stats kind).countP (fun stat => stat.name = name) = 1
  stats
    : ∀ kind,
        ∀ stat ∈ snapshot.stats kind,
          stat.kind = kind
          ∧ stat.Tells (records.filter fun record => record.CountsFor kind stat.name)
  usage
    : ∀ kind name count,
        (kind, name, count) ∈ snapshot.byUsage
        ↔ .text name ∈ catalog.names kind
          ∧ 0 < count
          ∧ count = records.countP fun record => record.CountsFor kind (.text name)
  usageOnce : (snapshot.byUsage.map fun entry => (entry.1, entry.2.1)).Nodup
  byUsage
    : Ranks (fun entry => entry.2.2) (fun entry => firstUse records (entry.1, entry.2.1))
        snapshot.byUsage
  flows
    : ∀ source count,
        (source, count) ∈ snapshot.byFlows
        ↔ source ∈ sources ∧ count = sources.count source
  flowsOnce : (snapshot.byFlows.map Prod.fst).Nodup
  byFlows : Ranks Prod.snd (fun entry => sources.idxOf entry.1) snapshot.byFlows

theorem CoverageStat.of_tells (kind : Kind) (records : List Record) (name : Scalar)
    : (of kind records name).Tells
        (records.filter fun record => record.CountsFor kind name) where
  usageCount := rfl
  implementedCount := rfl
  classes := rfl
  files := rfl
  used := by
    simp only [of, List.length_pos_iff, ne_eq, List.eq_nil_iff_forall_not_mem,
      List.mem_eraseDups, List.mem_map]
    simp
  implemented := List.length_filter_le _ _

namespace Tracker

/-- (listedUse? catalog record) is the kind and name of a record that the catalog lists. -/
def listedUse? (catalog : Catalog) (record : Record) : Option (Kind × Text) :=
  if .text record.methodName ∈ catalog.names record.kind
  then some (record.kind, record.methodName)
  else none

theorem listedUse?_eq_some_iff (catalog : Catalog) (record : Record) (entry : Kind × Text)
    : listedUse? catalog record = some entry
      ↔ record.CountsFor entry.1 (.text entry.2) ∧ .text entry.2 ∈ catalog.names entry.1 := by
  simp only [listedUse?, Record.CountsFor, Option.ite_none_right_eq_some, Option.some.injEq,
    Prod.ext_iff, Scalar.text.injEq]
  constructor
  · rintro ⟨listed, kind, name⟩
    exact ⟨⟨kind, name.symm⟩, kind ▸ name ▸ listed⟩
  · rintro ⟨⟨kind, name⟩, listed⟩
    exact ⟨kind.symm ▸ name ▸ listed, kind, name.symm⟩

section After

variable (catalog : Catalog) (records : List Record) (sources : List Text)

theorem coverage_kinds
    : (after catalog records sources).snapshot.coverage.map Prod.fst
      = Kind.all.filter fun kind => catalog.names kind ≠ [] := by
  rw [snapshot, List.filter_map, List.map_map]
  refine (List.map_id _).trans (List.filter_congr fun kind _ => ?_)
  cases names : catalog.names kind <;> simp [after, names]

theorem stats_after (kind : Kind)
    : (after catalog records sources).snapshot.stats kind
      = (catalog.names kind).map (CoverageStat.of kind records) := by
  rw [Snapshot.stats, snapshot, List.find?_filter, List.find?_map]
  cases names : catalog.names kind with
  | nil => cases kind <;> simp [after, names, Kind.all]
  | cons name rest => cases kind <;> simp [after, names, Kind.all]

/-- The names that are used are ranked by the number of their records. -/
theorem byUsage_after
    : (after catalog records sources).snapshot.byUsage
      = rankBy (fun entry => entry.2.2)
          ((seen catalog records).eraseDups.map fun entry =>
            (entry.1, entry.2,
              records.countP fun record => record.CountsFor entry.1 (.text entry.2))) := by
  refine congrArg (rankBy _) (List.map_congr_left fun entry member => ?_)
  obtain ⟨record, kept, rfl⟩ := List.mem_map.mp (List.mem_eraseDups.mp member)
  have listed := of_decide_eq_true (List.mem_filter.mp kept).2
  dsimp only
  rw [stat?_after, if_pos listed, List.countP_eq_length_filter]
  rfl

theorem byFlows_after
    : (after catalog records sources).snapshot.byFlows
      = rankBy Prod.snd (sources.eraseDups.map fun source => (source, sources.count source)) :=
  rfl

theorem seen_eq_filterMap : seen catalog records = records.filterMap (listedUse? catalog) := by
  rw [seen, ← List.filterMap_eq_map, List.filterMap_filter]
  simp only [decide_eq_true_eq, Function.comp_apply]
  rfl

theorem mem_seen_iff (entry : Kind × Text)
    : entry ∈ seen catalog records
      ↔ .text entry.2 ∈ catalog.names entry.1
        ∧ 0 < records.countP fun record => record.CountsFor entry.1 (.text entry.2) := by
  rw [seen_eq_filterMap, List.mem_filterMap, List.countP_pos_iff]
  simp only [listedUse?_eq_some_iff, decide_eq_true_eq]
  constructor
  · rintro ⟨record, member, counts, listed⟩
    exact ⟨listed, record, member, counts⟩
  · rintro ⟨listed, record, member, counts⟩
    exact ⟨record, member, counts, listed⟩

/-- The seen names, without repetitions, stand by their first records.
Witness: a listed name is seen where a record counts for it, so it is first seen where it is first
used.
-/
theorem seen_places
    : (seen catalog records).eraseDups.Pairwise fun left right =>
        firstUse records left < firstUse records right := by
  have first (entry : Kind × Text) (member : entry ∈ (seen catalog records).eraseDups)
      : firstUse records entry
        = records.findIdx fun record => listedUse? catalog record = some entry := by
    have listed := ((mem_seen_iff catalog records entry).mp (List.mem_eraseDups.mp member)).1
    refine congrArg (records.findIdx ·) (funext fun record => ?_)
    rw [decide_eq_decide, listedUse?_eq_some_iff]
    exact ⟨fun counts => ⟨counts, listed⟩, And.left⟩
  rw [seen_eq_filterMap] at first ⊢
  refine (pairwise_findIdx_eraseDups (listedUse? catalog) records).imp_of_mem ?_
  intro left right here there before
  rwa [first left here, first right there]

theorem eraseDups_places
    : sources.eraseDups.Pairwise fun left right =>
        sources.idxOf left < sources.idxOf right := by
  have ordered := pairwise_findIdx_eraseDups some sources
  simpa only [List.filterMap_some, Option.some.injEq, List.idxOf, beq_eq_decide] using ordered

/-- What is shown after some records and flows tells of them. -/
theorem snapshot_after_tells (listsOnce : catalog.ListsOnce)
    : Snapshot.Tells catalog records sources (after catalog records sources).snapshot where
  kinds := coverage_kinds catalog records sources
  names kind := by
    rw [stats_after, List.map_map]
    exact List.map_id _
  once kind name member := by
    rw [stats_after, List.countP_map, ← List.count_eq_one_of_mem (listsOnce kind) member]
    exact List.countP_congr fun other _ => by simp [CoverageStat.of]
  stats kind stat member := by
    rw [stats_after] at member
    obtain ⟨name, -, rfl⟩ := List.mem_map.mp member
    exact ⟨rfl, CoverageStat.of_tells kind records name⟩
  usage kind name count := by
    rw [byUsage_after, (rankBy_perm _ _).mem_iff, List.mem_map]
    constructor
    · rintro ⟨entry, member, same⟩
      obtain ⟨rfl, rfl, rfl⟩ : entry.1 = kind ∧ entry.2 = name ∧ _ = count := by
        simpa only [Prod.mk.injEq] using same
      obtain ⟨listed, used⟩ :=
        (mem_seen_iff catalog records entry).mp (List.mem_eraseDups.mp member)
      exact ⟨listed, used, rfl⟩
    · rintro ⟨listed, used, rfl⟩
      have member := (mem_seen_iff catalog records (kind, name)).mpr ⟨listed, used⟩
      exact ⟨(kind, name), List.mem_eraseDups.mpr member, rfl⟩
  usageOnce := by
    rw [byUsage_after, ((rankBy_perm _ _).map _).nodup_iff, List.map_map]
    exact (List.map_id _).symm ▸ eraseDups_nodup _
  byUsage := by
    rw [byUsage_after]
    exact rankBy_ranks (List.pairwise_map.mpr (seen_places catalog records))
  flows source count := by
    rw [byFlows_after, (rankBy_perm _ _).mem_iff, List.mem_map]
    simp only [List.mem_eraseDups, Prod.mk.injEq]
    constructor
    · rintro ⟨_, member, rfl, rfl⟩
      exact ⟨member, rfl⟩
    · rintro ⟨member, rfl⟩
      exact ⟨source, member, rfl, rfl⟩
  flowsOnce := by
    rw [byFlows_after, ((rankBy_perm _ _).map _).nodup_iff, List.map_map]
    exact (List.map_id _).symm ▸ eraseDups_nodup _
  byFlows := by
    rw [byFlows_after]
    exact rankBy_ranks (List.pairwise_map.mpr (eraseDups_places sources))

end After

-----------------------------------------------------------------------------------------
-- Histories of calls
-----------------------------------------------------------------------------------------

/-- A tracker is given one record, or the flows of one batch. -/
inductive Call where
  | fold (record : Record)
  | foldFlows (flows : List DataFlow)

namespace Call

/-- (records call) is the record that a call counts. -/
def records : Call → List Record
  | fold record => [record]
  | foldFlows _ => []

/-- (sources call) are the sources of the flows that a call counts. -/
def sources : Call → List Text
  | fold _ => []
  | foldFlows flows => flows.map DataFlow.source

/-- (isListed catalog call) fails for a record of a name that the catalog does not list. -/
def isListed (catalog : Catalog) : Call → Bool
  | fold record => .text record.methodName ∈ catalog.names record.kind
  | foldFlows _ => true

end Call

/-- (answer tracker call) is the tracker after a call. -/
def answer (tracker : Tracker) : Call → Tracker
  | .fold record => tracker.fold record
  | .foldFlows flows => tracker.foldFlows flows

/-- (track catalog calls) is a tracker of the catalog after some calls. -/
def track (catalog : Catalog) (calls : List Call) : Tracker :=
  calls.foldl answer (ofCatalog catalog)

section Calls

variable (catalog : Catalog) (records : List Record) (sources : List Text)

theorem answer_after (call : Call)
    : (after catalog records sources).answer call
      = after catalog (records ++ call.records) (sources ++ call.sources) := by
  cases call with
  | fold record =>
      rw [answer, fold_after, Call.records, Call.sources, List.append_nil]
  | foldFlows flows =>
      rw [answer, foldFlows_after, Call.records, Call.sources, List.append_nil]

/-- A tracker is known from the records and sources of its calls, however they alternate. -/
theorem foldl_answer_after (calls : List Call)
    : calls.foldl answer (after catalog records sources)
      = after catalog (records ++ calls.flatMap Call.records)
          (sources ++ calls.flatMap Call.sources) := by
  induction calls generalizing records sources with
  | nil => simp only [List.foldl_nil, List.flatMap_nil, List.append_nil]
  | cons call rest ih =>
      rw [List.foldl_cons, answer_after, ih, List.flatMap_cons, List.flatMap_cons,
        List.append_assoc, List.append_assoc]

theorem answer_unlisted {call : Call} (unlisted : ¬ call.isListed catalog = true)
    : (after catalog records sources).answer call = after catalog records sources := by
  cases call with
  | fold record =>
      have outside : .text record.methodName ∉ catalog.names record.kind := by
        simpa only [Call.isListed, decide_eq_true_eq] using unlisted
      rw [answer, fold, stat?_after, if_neg outside]
  | foldFlows flows => exact absurd rfl unlisted

/-- Calls with records of names that are not listed change nothing, wherever they stand. -/
theorem foldl_answer_filter (calls : List Call)
    : (calls.filter (Call.isListed catalog)).foldl answer (after catalog records sources)
      = calls.foldl answer (after catalog records sources) := by
  induction calls generalizing records sources with
  | nil => rfl
  | cons call rest ih =>
      by_cases listed : call.isListed catalog = true
      · rw [List.filter_cons_of_pos listed, List.foldl_cons, List.foldl_cons, answer_after, ih]
      · rw [List.filter_cons_of_neg listed, List.foldl_cons, answer_unlisted _ _ _ listed, ih]

end Calls

/-- However records and flows alternate, a snapshot tells of all that were counted until then, and
of no record whose name the catalog does not list.
Witness: every call keeps the tracker known from what it was given, and an unlisted record leaves it
as it is.
-/
theorem track_tells {catalog : Catalog} (listsOnce : catalog.ListsOnce) (calls : List Call)
    : Snapshot.Tells catalog (calls.flatMap Call.records) (calls.flatMap Call.sources)
        (track catalog calls).snapshot
      ∧ track catalog (calls.filter (Call.isListed catalog)) = track catalog calls := by
  rw [track, track, ofCatalog_eq_after]
  refine ⟨?_, foldl_answer_filter catalog [] [] calls⟩
  rw [foldl_answer_after]
  exact snapshot_after_tells catalog _ _ listsOnce

/-- (alternating) are calls with a record of a strange name between two records of one class, and
after a flow.
-/
def alternating : List Call := [
  .fold ⟨"onCreate", .ability, "A", "a.ets", 3, true, "A.onCreate()", none⟩,
  .foldFlows [⟨"A.onCreate()", "B.load()", 4, []⟩],
  .fold ⟨"onStrange", .ability, "A", "a.ets", 5, true, "A.onStrange()", none⟩,
  .fold ⟨"onCreate", .ability, "A", "a.ets", 9, false, "A.onCreate()", none⟩]

/-- A snapshot tells of calls of both kinds, and the record of the strange name changes nothing. -/
theorem track_tells_alternating
    : Catalog.standard.ListsOnce
      ∧ Snapshot.Tells .standard (alternating.flatMap Call.records)
          (alternating.flatMap Call.sources) (track .standard alternating).snapshot
      ∧ track .standard (alternating.filter (Call.isListed .standard))
        = track .standard alternating := by
  have listsOnce : Catalog.standard.ListsOnce :=
    Catalog.versions_listOnce (by simp [Catalog.standard, Catalog.versions])
  exact ⟨listsOnce, track_tells listsOnce alternating⟩

end Tracker

end ArkLifecycle
