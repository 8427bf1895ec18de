import ArkLifecycle.Coverage
import ArkLifecycle.Proofs.CallGraph.Exploration
import ArkLifecycle.Proofs.Catalog.Names
import ArkLifecycle.Proofs.Identification.Exactness
import Mathlib.Algebra.BigOperators.Group.List.Basic
import Mathlib.Algebra.GroupWithZero.Nat

/-! What a tracker has counted.

A tracker is known from the records and the sources of flows that it was given, in their order. What
is shown of it adds up: every record that the catalog lists stands behind one statistic and one
place of the ranking, and every flow behind one source.
-/

namespace ArkLifecycle

-----------------------------------------------------------------------------------------
-- Trackers in closed form
-----------------------------------------------------------------------------------------

@[simp]
theorem KindTable.get_ofFn {α : Type} (f : Kind → α) (kind : Kind)
    : (KindTable.ofFn f).get kind = f kind := by
  cases kind <;> rfl

theorem KindTable.set_ofFn {α : Type} (f : Kind → α) (kind : Kind) (value : α)
    : (KindTable.ofFn f).set kind value = .ofFn (Function.update f kind value) := by
  cases kind <;> simp [KindTable.set, KindTable.ofFn]

/-- The last item is added unless it stands before. -/
theorem eraseDups_concat {α : Type} [BEq α] [LawfulBEq α] (items : List α) (item : α)
    : (items ++ [item]).eraseDups
      = if item ∈ items then items.eraseDups else items.eraseDups ++ [item] := by
  rw [List.eraseDups_append]
  by_cases known : item ∈ items <;> simp [List.removeAll, known, List.eraseDups_cons]

/-- Among items that are made from names, a test that only one name passes finds its item. -/
theorem find?_map_of_iff {α β : Type} [DecidableEq α] (names : List α) (name : α)
    {item : α → β} {test : β → Bool} (passes : ∀ other, test (item other) = true ↔ other = name)
    : (names.map item).find? test = if name ∈ names then some (item name) else none := by
  induction names with
  | nil => rfl
  | cons other rest ih =>
      by_cases same : other = name
      · simp [same, (passes name).mpr rfl]
      · have fails : test (item other) = false := by simpa [same] using mt (passes other).mp same
        simp [fails, ih, Ne.symm same]

/-- The record counts for a name of some kind. -/
def Record.CountsFor (kind : Kind) (name : Scalar) (record : Record) : Prop :=
  record.kind = kind ∧ name = .text record.methodName

instance (kind : Kind) (name : Scalar) (record : Record)
    : Decidable (record.CountsFor kind name) :=
  inferInstanceAs (Decidable (_ ∧ _))

/-- (CoverageStat.of kind records name) is the statistic of a name after some records. -/
def CoverageStat.of (kind : Kind) (records : List Record) (name : Scalar) : CoverageStat :=
  let mine := records.filter fun record => record.CountsFor kind name
  { name
    kind
    usageCount := mine.length
    implementedCount := (mine.filter Record.hasImplementation).length
    classes := (mine.map Record.className).eraseDups
    files := (mine.map Record.filePath).eraseDups }

theorem CoverageStat.isNamed_iff (stat : CoverageStat) (name : Text)
    : stat.isNamed name = true ↔ stat.name = .text name := by
  rw [CoverageStat.isNamed]
  exact Scalar.same_text_iff stat.name name

theorem CoverageStat.addOnce_eraseDups (items : List Text) (item : Text)
    : addOnce items.eraseDups item = (items ++ [item]).eraseDups := by
  rw [eraseDups_concat, addOnce]
  simp

/-- One more record changes the statistic for which it counts, and no other one. -/
theorem CoverageStat.of_concat (kind : Kind) (records : List Record) (record : Record)
    (name : Scalar)
    : of kind (records ++ [record]) name
      = if record.CountsFor kind name
        then (of kind records name).add record
        else of kind records name := by
  by_cases counts : record.CountsFor kind name
  · rw [if_pos counts]
    simp only [of, add, List.filter_append, List.filter_cons, counts, decide_true, if_true,
      List.filter_nil, List.length_append, List.map_append, List.map_cons, List.map_nil,
      addOnce_eraseDups, List.length_cons, List.length_nil]
    split <;> rfl
  · simp [of, counts]

namespace Tracker

/-- (seen catalog records) are the kinds and names of those records that the catalog lists. -/
def seen (catalog : Catalog) (records : List Record) : List (Kind × Text) :=
  (records.filter fun record => .text record.methodName ∈ catalog.names record.kind).map
    fun record => (record.kind, record.methodName)

theorem seen_concat (catalog : Catalog) (records : List Record) (record : Record)
    : seen catalog (records ++ [record])
      = if .text record.methodName ∈ catalog.names record.kind
        then seen catalog records ++ [(record.kind, record.methodName)]
        else seen catalog records := by
  by_cases listed : .text record.methodName ∈ catalog.names record.kind <;> simp [seen, listed]

/-- A listed name is used as often as it is seen. -/
theorem usageCount_of {catalog : Catalog} {kind : Kind} {name : Text}
    (listed : .text name ∈ catalog.names kind) (records : List Record)
    : (CoverageStat.of kind records (.text name)).usageCount
      = (seen catalog records).count (kind, name) := by
  rw [CoverageStat.of, seen, List.count, List.countP_map, List.countP_filter,
    ← List.countP_eq_length_filter]
  refine List.countP_congr fun record _ => ?_
  simp only [Record.CountsFor, Scalar.text.injEq, decide_eq_true_eq, Function.comp_apply,
    beq_iff_eq, Prod.mk.injEq, Bool.and_eq_true]
  constructor
  · rintro ⟨rfl, rfl⟩
    exact ⟨⟨rfl, rfl⟩, listed⟩
  · rintro ⟨⟨rfl, rfl⟩, -⟩
    exact ⟨rfl, rfl⟩

/-- (after catalog records sources) has counted some records and flows from some sources. -/
def after (catalog : Catalog) (records : List Record) (sources : List Text) : Tracker where
  stats := .ofFn fun kind => (catalog.names kind).map (CoverageStat.of kind records)
  firstSeen := (seen catalog records).eraseDups
  flowCounts := sources.eraseDups.map fun source => (source, sources.count source)

theorem ofCatalog_eq_after (catalog : Catalog) : ofCatalog catalog = after catalog [] [] :=
  rfl

theorem stat?_after (catalog : Catalog) (records : List Record) (sources : List Text)
    (kind : Kind) (name : Text)
    : (after catalog records sources).stat? kind name
      = if .text name ∈ catalog.names kind
        then some (.of kind records (.text name))
        else none := by
  rw [stat?, after, KindTable.get_ofFn]
  exact find?_map_of_iff (catalog.names kind) _ fun listed => CoverageStat.isNamed_iff _ name

/-- Adding a record to the statistics of its name gives the statistics after one more record. -/
theorem set_stats (catalog : Catalog) (records : List Record) (record : Record)
    : (KindTable.ofFn fun kind => (catalog.names kind).map (CoverageStat.of kind records)).set
        record.kind
        (((catalog.names record.kind).map (CoverageStat.of record.kind records)).map fun stat =>
          if stat.isNamed record.methodName then stat.add record else stat)
      = .ofFn fun kind =>
          (catalog.names kind).map (CoverageStat.of kind (records ++ [record])) := by
  rw [KindTable.set_ofFn]
  refine congrArg KindTable.ofFn (funext fun kind => ?_)
  by_cases here : kind = record.kind
  · subst here
    rw [Function.update_self, List.map_map]
    refine List.map_congr_left fun name _ => ?_
    rw [Function.comp_apply, CoverageStat.of_concat]
    refine if_congr ?_ rfl rfl
    rw [CoverageStat.isNamed_iff]
    exact ⟨fun named => ⟨rfl, named⟩, And.right⟩
  · rw [Function.update_of_ne here]
    refine List.map_congr_left fun name _ => ?_
    rw [CoverageStat.of_concat, if_neg fun counts => here counts.1.symm]

/-- A tracker keeps its form when it is given one more record.
Witness: a record that the catalog does not list counts for none of its names.
-/
theorem fold_after (catalog : Catalog) (records : List Record) (sources : List Text)
    (record : Record)
    : (after catalog records sources).fold record
      = after catalog (records ++ [record]) sources := by
  rw [fold, stat?_after]
  by_cases listed : .text record.methodName ∈ catalog.names record.kind
  · -- A name is new among the seen ones exactly while its statistic is still zero.
    have first
        : (seen catalog (records ++ [record])).eraseDups
          = if (CoverageStat.of record.kind records (.text record.methodName)).usageCount = 0
            then (seen catalog records).eraseDups ++ [(record.kind, record.methodName)]
            else (seen catalog records).eraseDups := by
      rw [seen_concat, if_pos listed, eraseDups_concat, usageCount_of listed]
      simp only [List.count_eq_zero, ite_not]
    rw [if_pos listed]
    simp only [after, KindTable.get_ofFn, set_stats, first]
  · have unlisted (kind : Kind)
        : (catalog.names kind).map (CoverageStat.of kind (records ++ [record]))
          = (catalog.names kind).map (CoverageStat.of kind records) := by
      refine List.map_congr_left fun name member => ?_
      rw [CoverageStat.of_concat, if_neg]
      rintro ⟨rfl, rfl⟩
      exact listed member
    rw [if_neg listed]
    simp only [after, unlisted, seen_concat, if_neg listed]

theorem foldAll_after (catalog : Catalog) (records more : List Record) (sources : List Text)
    : (after catalog records sources).foldAll more = after catalog (records ++ more) sources := by
  induction more generalizing records with
  | nil => rw [List.append_nil]; rfl
  | cons record rest ih =>
      rw [foldAll, List.foldl_cons, fold_after]
      exact (ih _).trans (by rw [List.append_assoc]; rfl)

/-- A source that is counted once more keeps its place, a new one comes last. -/
theorem increment_counts (sources : List Text) (source : Text)
    : increment (sources.eraseDups.map fun other => (other, sources.count other)) source
      = (sources ++ [source]).eraseDups.map fun other =>
          (other, (sources ++ [source]).count other) := by
  have earlier
      : Json.lookup (sources.eraseDups.map fun other => (other, sources.count other)) source
        = if source ∈ sources then some (sources.count source) else none := by
    rw [Json.lookup, find?_map_of_iff _ source fun other => beq_iff_eq]
    by_cases known : source ∈ sources <;> simp [known]
  have present
      : (sources.eraseDups.map fun other => (other, sources.count other)).any
          (fun field => Name.same field.1 source)
        = decide (source ∈ sources) := by
    rw [Bool.eq_iff_iff]
    simp [Name.same]
  rw [increment, earlier, Json.put, present, eraseDups_concat]
  by_cases known : source ∈ sources
  · simp only [known, decide_true, if_true, List.map_map, Option.getD_some]
    refine List.map_congr_left fun other _ => ?_
    by_cases same : other = source
    · simp [Name.same, same]
    · simp [Name.same, same, Ne.symm same]
  · have others (other : Text) (member : other ∈ sources.eraseDups)
        : (other, sources.count other) = (other, (sources ++ [source]).count other) := by
      have apart : source ≠ other := by
        rintro rfl
        exact known (List.mem_eraseDups.mp member)
      simp [apart]
    simp only [known, decide_false, Bool.false_eq_true, if_false, List.map_append,
      List.map_congr_left others, List.map_cons, List.map_nil, Option.getD_none]
    simp [List.count_eq_zero.mpr known]

theorem foldFlows_after (catalog : Catalog) (records : List Record) (sources : List Text)
    (flows : List DataFlow)
    : (after catalog records sources).foldFlows flows
      = after catalog records (sources ++ flows.map DataFlow.source) := by
  have counted (more : List Text)
      : more.foldl increment (sources.eraseDups.map fun other => (other, sources.count other))
        = (sources ++ more).eraseDups.map fun other => (other, (sources ++ more).count other) := by
    induction more generalizing sources with
    | nil => simp
    | cons source rest ih => rw [List.foldl_cons, increment_counts, ih, List.append_assoc]; rfl
  rw [foldFlows, after, counted]
  rfl

/-- A tracker is known from what it was given. -/
theorem foldFlows_foldAll_ofCatalog (catalog : Catalog) (records : List Record)
    (flows : List DataFlow)
    : ((ofCatalog catalog).foldAll records).foldFlows flows
      = after catalog records (flows.map DataFlow.source) := by
  rw [ofCatalog_eq_after, foldAll_after, foldFlows_after]
  rfl

end Tracker

-----------------------------------------------------------------------------------------
-- Sums
-----------------------------------------------------------------------------------------

/-- Items of which each falls into one place are as many as there are in all places together.
Witness: induction over the items, each of which adds one to the count of its place.
-/
theorem sum_countP_eq_length {α β : Type} {places : List α} {falls : α → β → Bool}
    {items : List β} (once : ∀ item ∈ items, places.countP (falls · item) = 1)
    : (places.map fun place => items.countP (falls place)).sum = items.length := by
  induction items with
  | nil => simp
  | cons item rest ih =>
      have added (others : List α)
          : (others.map fun place => if falls place item then 1 else 0).sum
            = others.countP (falls · item) := by
        induction others with
        | nil => rfl
        | cons place others ih => rw [List.map_cons, List.sum_cons, List.countP_cons, ih, add_comm]
      simp only [List.countP_cons]
      rw [List.sum_map_add, ih fun other member => once other (List.mem_cons_of_mem _ member),
        added, once item List.mem_cons_self, List.length_cons]

theorem eraseDups_nodup {α : Type} [BEq α] [LawfulBEq α] (items : List α)
    : items.eraseDups.Nodup := by
  rw [← CallGraph.distinct_eq_eraseDups]
  exact CallGraph.distinct_nodup items

/-- The counts of the different items add up to the number of items. -/
theorem sum_count_eraseDups {α : Type} [BEq α] [LawfulBEq α] (items : List α)
    : (items.eraseDups.map fun item => items.count item).sum = items.length := by
  refine sum_countP_eq_length fun item member => ?_
  have one := List.count_eq_one_of_mem (eraseDups_nodup items) (List.mem_eraseDups.mpr member)
  simpa [List.count, BEq.comm] using one

theorem rankBy_perm {α : Type} (count : α → Nat) (items : List α)
    : (rankBy count items).Perm items :=
  List.mergeSort_perm _ _

namespace Tracker

/-- (places catalog) are the kinds with the names that are listed for them. -/
def places (catalog : Catalog) : List (Kind × Scalar) :=
  Kind.all.flatMap fun kind => (catalog.names kind).map fun name => (kind, name)

theorem places_nodup {catalog : Catalog} (listsOnce : catalog.ListsOnce)
    : (places catalog).Nodup := by
  rw [places, List.nodup_flatMap]
  constructor
  · intro kind _
    exact (listsOnce kind).map fun _ _ same => (Prod.mk.inj same).2
  · have apart : Kind.all.Nodup := by decide
    refine apart.imp fun {kind other} differ place here there => ?_
    obtain ⟨_, -, rfl⟩ := List.mem_map.mp here
    obtain ⟨_, -, same⟩ := List.mem_map.mp there
    exact differ (Prod.mk.inj same).1.symm

/-- A listed record counts for one of the listed names, and only for that one. -/
theorem countP_places {catalog : Catalog} (listsOnce : catalog.ListsOnce) {record : Record}
    (listed : .text record.methodName ∈ catalog.names record.kind)
    : (places catalog).countP (fun place => record.CountsFor place.1 place.2) = 1 := by
  have member : (record.kind, .text record.methodName) ∈ places catalog :=
    List.mem_flatMap.mpr ⟨record.kind, Kind.mem_all _, List.mem_map_of_mem listed⟩
  rw [← List.count_eq_one_of_mem (places_nodup listsOnce) member, List.count]
  refine List.countP_congr fun place _ => ?_
  rw [decide_eq_true_iff, beq_iff_eq, Prod.ext_iff]
  exact and_congr_left' eq_comm

/-- The statistics that are shown are those of the listed names. -/
theorem coverage_after (catalog : Catalog) (records : List Record) (sources : List Text)
    : (after catalog records sources).snapshot.coverage.flatMap Prod.snd
      = (places catalog).map fun place => CoverageStat.of place.1 records place.2 := by
  -- Kinds without names are not shown, and have no statistics to miss.
  have shown (entries : List (Kind × List CoverageStat))
      : (entries.filter fun entry => !entry.2.isEmpty).flatMap Prod.snd
        = entries.flatMap Prod.snd := by
    induction entries with
    | nil => rfl
    | cons entry rest ih =>
        cases empty : entry.2 with
        | nil => simp [empty, ih]
        | cons => simp [empty, ih]
  rw [snapshot, shown, places, List.flatMap_map, List.map_flatMap]
  simp only [after, KindTable.get_ofFn, List.map_map]
  rfl

section Sums

variable {catalog : Catalog} {records : List Record} {sources : List Text}

theorem sum_usageCount (listsOnce : catalog.ListsOnce)
    (listed : ∀ record ∈ records, .text record.methodName ∈ catalog.names record.kind)
    : (((after catalog records sources).snapshot.coverage.flatMap Prod.snd).map
        CoverageStat.usageCount).sum
      = records.length := by
  rw [coverage_after, List.map_map,
    ← sum_countP_eq_length fun record member => countP_places listsOnce (listed record member)]
  simp only [List.countP_eq_length_filter]
  rfl

theorem sum_implementedCount (listsOnce : catalog.ListsOnce)
    (listed : ∀ record ∈ records, .text record.methodName ∈ catalog.names record.kind)
    : (((after catalog records sources).snapshot.coverage.flatMap Prod.snd).map
        CoverageStat.implementedCount).sum
      = (records.filter Record.hasImplementation).length := by
  rw [coverage_after, List.map_map,
    ← sum_countP_eq_length fun record member =>
      countP_places listsOnce (listed record (List.mem_of_mem_filter member))]
  refine congrArg List.sum (List.map_congr_left fun place _ => ?_)
  simp only [Function.comp_apply, CoverageStat.of, ← List.countP_eq_length_filter,
    List.countP_filter, Bool.and_comm]

theorem sum_byUsage
    (listed : ∀ record ∈ records, .text record.methodName ∈ catalog.names record.kind)
    : ((after catalog records sources).snapshot.byUsage.map fun entry => entry.2.2).sum
      = records.length := by
  have counted (entry : Kind × Text) (member : entry ∈ (seen catalog records).eraseDups)
      : (((after catalog records sources).stat? entry.1 entry.2).map
          CoverageStat.usageCount).getD 0
        = (seen catalog records).count entry := by
    obtain ⟨record, kept, rfl⟩ := List.mem_map.mp (List.mem_eraseDups.mp member)
    have named := listed record (List.mem_of_mem_filter kept)
    rw [stat?_after, if_pos named, Option.map_some, Option.getD_some, usageCount_of named]
  have all : (seen catalog records).length = records.length := by
    rw [seen, List.length_map, List.filter_eq_self.mpr fun record member =>
      decide_eq_true (listed record member)]
  rw [snapshot, ((rankBy_perm _ _).map _).sum_eq, List.map_map, ← all, ← sum_count_eraseDups]
  exact congrArg List.sum (List.map_congr_left counted)

theorem sum_byFlows
    : ((after catalog records sources).snapshot.byFlows.map Prod.snd).sum = sources.length := by
  rw [snapshot, ((rankBy_perm _ _).map _).sum_eq, after, List.map_map]
  exact sum_count_eraseDups sources

end Sums

end Tracker

end ArkLifecycle
