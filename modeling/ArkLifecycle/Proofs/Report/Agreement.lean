import ArkLifecycle.Proofs.Analysis.Results
import ArkLifecycle.Proofs.Coverage.History
import ArkLifecycle.Proofs.Report.Document

/-! Reports agree with the records of their analyses.

What a report says about the use of the catalog, and what it recommends, is told by the records
alone: a name is used exactly if some record counts for it, whatever its kind and however many kinds
list it.
-/

namespace ArkLifecycle

open Activity

/-- Only a text equals a text. -/
theorem Json.equal_text_iff (name : Scalar) (written : Text)
    : (Json.scalar name).equal (.text written) = true ↔ name = .text written := by
  rw [← Scalar.same_text_iff]
  cases name <;> simp [Json.equal, Json.isDefined, Json.same, Scalar.same, Scalar.sameNumber,
    Scalar.asInt?]

-----------------------------------------------------------------------------------------
-- The use of one kind
-----------------------------------------------------------------------------------------

/-- The use of a kind agrees with the records. Every name that the catalog lists for the kind is
either among the used or among the unused ones, and the used ones are those that have a record.
-/
structure KindCoverage.Agrees (listed : List Scalar) (records : List Record)
    (coverage : KindCoverage)
    : Prop where
  defined : coverage.summary.defined = listed.eraseDups.length
  used : coverage.summary.used = coverage.used.length
  split : coverage.used.length + coverage.unused.length = coverage.summary.defined
  names : (coverage.used.map CoverageStat.name ++ coverage.unused).Perm listed
  once : (coverage.used.map CoverageStat.name ++ coverage.unused).Nodup
  hasRecord
    : ∀ name,
        name ∈ coverage.used.map CoverageStat.name
        ↔ ∃ record ∈ records, record.CountsFor coverage.kind name
  usage
    : ∀ stat ∈ coverage.used,
        stat.usageCount = records.countP fun record => record.CountsFor coverage.kind stat.name
  ranked
    : Ranks CoverageStat.usageCount (fun stat => listed.idxOf stat.name) coverage.used
  usageCount
    : coverage.summary.usageCount = records.countP fun record => record.kind = coverage.kind

namespace CoverageStat

theorem isUsed_of (kind : Kind) (records : List Record) (name : Scalar)
    : (of kind records name).isUsed = true
      ↔ ∃ record ∈ records, record.CountsFor kind name := by
  simp only [isUsed, of, decide_eq_true_eq, ← List.countP_eq_length_filter, List.countP_pos_iff]

/-- Ranking the used ones and leaving the unused ones aside loses no name. -/
theorem used_append_unused_perm (stats : List CoverageStat)
    : ((rankBy usageCount (stats.filter isUsed)).map name
        ++ (stats.filter (!isUsed ·)).map name).Perm
        (stats.map name) := by
  have parted := (List.filter_append_perm isUsed stats).map name
  rw [List.map_append] at parted
  exact (((rankBy_perm _ _).map _).append_right _).trans parted

/-- What is not used adds nothing to the sum of all uses. -/
theorem sum_usageCount_used (stats : List CoverageStat)
    : ((stats.filter isUsed).map usageCount).sum = (stats.map usageCount).sum := by
  have unused : ((stats.filter (!isUsed ·)).map usageCount).sum = 0 := by
    refine List.sum_eq_zero fun count member => ?_
    obtain ⟨stat, kept, rfl⟩ := List.mem_map.mp member
    simpa [isUsed] using (List.mem_filter.mp kept).2
  have whole := ((List.filter_append_perm isUsed stats).map usageCount).sum_eq
  rwa [List.map_append, List.sum_append, unused, Nat.add_zero] at whole

/-- Records of other kinds do not count for a name of a kind. -/
theorem usageCount_eq_countP (kind : Kind) (records : List Record) (name : Scalar)
    : (of kind records name).usageCount
      = (records.filter fun record => record.kind = kind).countP fun record =>
          record.CountsFor kind name := by
  rw [List.countP_filter, of, ← List.countP_eq_length_filter]
  refine List.countP_congr fun record _ => ?_
  rw [Bool.and_eq_true, decide_eq_true_iff, decide_eq_true_iff]
  exact ⟨fun counts => ⟨counts, counts.1⟩, And.left⟩

end CoverageStat

section Kinds

variable {catalog : Catalog} {records : List Record}

/-- A listed record counts for one of the names of its kind. -/
theorem countP_names (listsOnce : catalog.ListsOnce) {record : Record}
    (listed : .text record.methodName ∈ catalog.names record.kind)
    : (catalog.names record.kind).countP (fun name => record.CountsFor record.kind name) = 1 := by
  rw [← List.count_eq_one_of_mem (listsOnce _) listed, List.count]
  refine List.countP_congr fun name _ => ?_
  simp [Record.CountsFor]

/-- The uses of all names of a kind are as many as its records, if their names are listed. -/
theorem sum_usageCount_kind (listsOnce : catalog.ListsOnce)
    (listed : ∀ record ∈ records, .text record.methodName ∈ catalog.names record.kind)
    (kind : Kind)
    : (((catalog.names kind).map (CoverageStat.of kind records)).map
        CoverageStat.usageCount).sum
      = records.countP fun record => record.kind = kind := by
  have once (record : Record) (member : record ∈ records.filter fun record => record.kind = kind)
      : (catalog.names kind).countP (fun name => record.CountsFor kind name) = 1 := by
    obtain ⟨known, same⟩ := List.mem_filter.mp member
    obtain rfl := of_decide_eq_true same
    exact countP_names listsOnce (listed record known)
  rw [List.countP_eq_length_filter, ← sum_countP_eq_length once, List.map_map]
  refine congrArg List.sum (List.map_congr_left fun name _ => ?_)
  exact CoverageStat.usageCount_eq_countP kind records name

variable {sources : List Text}

theorem kindCoverage_after (kind : Kind)
    : Report.kindCoverage (Tracker.after catalog records sources).snapshot kind
      = { kind
          summary := .ofStats ((catalog.names kind).map (CoverageStat.of kind records))
          used := rankBy CoverageStat.usageCount
            (((catalog.names kind).map (CoverageStat.of kind records)).filter
              CoverageStat.isUsed)
          unused := (((catalog.names kind).map (CoverageStat.of kind records)).filter
            (!CoverageStat.isUsed ·)).map CoverageStat.name } := by
  rw [Report.kindCoverage, Snapshot.summary, Snapshot.used, Snapshot.unused,
    Tracker.stats_after]

theorem mem_used_iff (kind : Kind) (stat : CoverageStat)
    : stat ∈ rankBy CoverageStat.usageCount
        (((catalog.names kind).map (CoverageStat.of kind records)).filter CoverageStat.isUsed)
      ↔ ∃ name ∈ catalog.names kind,
          CoverageStat.of kind records name = stat
          ∧ ∃ record ∈ records, record.CountsFor kind name := by
  rw [(rankBy_perm _ _).mem_iff, List.mem_filter, List.mem_map]
  constructor
  · rintro ⟨⟨name, member, rfl⟩, used⟩
    exact ⟨name, member, rfl, (CoverageStat.isUsed_of kind records name).mp used⟩
  · rintro ⟨name, member, rfl, counts⟩
    exact ⟨⟨name, member, rfl⟩, (CoverageStat.isUsed_of kind records name).mpr counts⟩

/-- After some records the use of a kind agrees with them.
Witness: the statistics of the listed names are parted into those of the used and the unused ones.
-/
theorem kindCoverage_agrees (listsOnce : catalog.ListsOnce)
    (listed : ∀ record ∈ records, .text record.methodName ∈ catalog.names record.kind)
    (kind : Kind)
    : (Report.kindCoverage (Tracker.after catalog records sources).snapshot kind).Agrees
        (catalog.names kind) records := by
  have names := CoverageStat.used_append_unused_perm
    ((catalog.names kind).map (CoverageStat.of kind records))
  rw [List.map_map] at names
  replace names := names.trans (.of_eq (List.map_id _))
  have distinct : (catalog.names kind).eraseDups.length = (catalog.names kind).length :=
    ((List.perm_ext_iff_of_nodup (eraseDups_nodup _) (listsOnce kind)).mpr
      fun _ => List.mem_eraseDups).length_eq
  rw [kindCoverage_after]
  constructor
  case defined => rw [CoverageSummary.ofStats, List.length_map, distinct]
  case used => exact (rankBy_perm _ _).length_eq.symm
  case split =>
    have length := names.length_eq
    rw [List.length_append, List.length_map] at length
    rw [length, CoverageSummary.ofStats, List.length_map]
  case names => exact names
  case once => exact names.nodup_iff.mpr (listsOnce kind)
  case hasRecord =>
    intro name
    simp only [List.mem_map, mem_used_iff]
    constructor
    · rintro ⟨_, ⟨_, -, rfl, counts⟩, rfl⟩
      exact counts
    · rintro ⟨record, member, rfl, rfl⟩
      exact ⟨_, ⟨_, listed record member, rfl, record, member, rfl, rfl⟩, rfl⟩
  case usage =>
    intro stat member
    obtain ⟨name, -, rfl, -⟩ := (mem_used_iff kind stat).mp member
    exact List.countP_eq_length_filter.symm
  case ranked =>
    refine rankBy_ranks ((List.pairwise_map.mpr ?_).filter _)
    exact pairwise_idxOf_of_nodup (listsOnce kind)
  case usageCount =>
    exact (CoverageStat.sum_usageCount_used _).trans (sum_usageCount_kind listsOnce listed kind)

theorem isMissing_iff (advice : Recommendation)
    : Report.isMissing (Tracker.after catalog records sources).snapshot advice = true
      ↔ .text advice.name ∈ catalog.names advice.kind
        ∧ ∀ record ∈ records, ¬ record.CountsFor advice.kind (.text advice.name) := by
  rw [Report.isMissing, Snapshot.stat, Tracker.stats_after,
    find?_map_of_iff _ (.text advice.name) fun other => Json.equal_text_iff other advice.name]
  by_cases listed : .text advice.name ∈ catalog.names advice.kind
  · have used := CoverageStat.isUsed_of advice.kind records (.text advice.name)
    rw [if_pos listed]
    dsimp only
    rw [Bool.not_eq_true', ← Bool.not_eq_true, used]
    simp only [listed, true_and, not_exists, not_and]
  · rw [if_neg listed]
    cases (Json.text advice.name).display <;> exact iff_of_false Bool.false_ne_true fun both =>
      listed both.1

end Kinds

-----------------------------------------------------------------------------------------
-- Whole reports
-----------------------------------------------------------------------------------------

/-- A report agrees with the analysis that it is about, when the catalog is that of the analysis.
It covers the kinds for which the catalog lists a name, and recommends what the catalog lists and
recommends and the program does not have. All of this is read from its document.
-/
structure Report.Agrees (catalog : Catalog) (result : Analysis) (report : Report) : Prop where
  kinds
    : report.coverage.map KindCoverage.kind = Kind.all.filter fun kind => catalog.names kind ≠ []
  coverage
    : ∀ coverage ∈ report.coverage,
        coverage.Agrees (catalog.names coverage.kind) result.records
  recommendations
    : report.recommendations
      = catalog.recommendations.filter fun advice =>
          .text advice.name ∈ catalog.names advice.kind
          ∧ ∀ record ∈ result.records, ¬ record.CountsFor advice.kind (.text advice.name)
  topMethods : report.topMethods = result.snapshot.byFlows.take 10
  bySeverity : (report.bySeverity.map Prod.snd).sum = result.issues.length
  document : ∀ more, ReportEntry.read (.object (report.fields ++ more)) = .ok report.entry

/-- Whatever an analysis gives, its report agrees with it.
Witness: the snapshot is known from the records, and the catalog lists the names of all of them.
-/
theorem Report.of_agrees {catalog : Catalog} (listsOnce : catalog.ListsOnce) {host : Host}
    {program : Program} {options : AnalysisOptions} {before after : Session} {result : Analysis}
    (done : outcome (Analysis.run host program catalog options) before = (.ok result, after))
    : (Report.of result (some catalog)).Agrees catalog result := by
  have listed (record : Record) (member : record ∈ result.records) :=
    (Analysis.grounded_of_run done member).listed
  have same := Analysis.snapshot_of_run done
  have shown (kind : Kind)
      : (result.snapshot.coverage.any fun entry => entry.1 = kind)
        = decide (catalog.names kind ≠ []) := by
    have member
        : kind ∈ result.snapshot.coverage.map Prod.fst ↔ catalog.names kind ≠ [] := by
      rw [same, Tracker.coverage_kinds, List.mem_filter, decide_eq_true_iff]
      exact and_iff_right kind.mem_all
    rw [Bool.eq_iff_iff, List.any_eq_true, decide_eq_true_iff, ← member, List.mem_map]
    simp only [decide_eq_true_eq]
  constructor
  case kinds =>
    rw [Report.of, List.map_map]
    refine (List.map_id _).trans (List.filter_congr fun kind _ => shown kind)
  case coverage =>
    intro coverage member
    obtain ⟨kind, -, rfl⟩ := List.mem_map.mp member
    rw [same]
    exact kindCoverage_agrees listsOnce listed kind
  case recommendations =>
    refine List.filter_congr fun advice _ => ?_
    rw [Bool.eq_iff_iff, same, isMissing_iff, decide_eq_true_iff]
  case topMethods => rfl
  case bySeverity => exact Analysis.sum_bySeverity result.issues
  case document => exact ReportEntry.read_fields _

/-- The report of an analysis of two abilities agrees with it. -/
theorem Report.of_agrees_twins
    : Catalog.standard.ListsOnce
      ∧ ∃ result after,
          outcome
              (Analysis.run .willing
                (.ofFiles [⟨"a.ets", [Analysis.abilityNamed "A", Analysis.abilityNamed "B"]⟩])
                .standard ⟨.bool true, 2, none, .lifecycle, none, List.range⟩)
              .fresh
            = (.ok result, after)
          ∧ (Report.of result (some .standard)).Agrees .standard result := by
  have listsOnce : Catalog.standard.ListsOnce :=
    Catalog.versions_listOnce (by simp [Catalog.standard, Catalog.versions])
  have accepting : Host.willing.Accepting := fun _ => rfl
  have fair : AnalysisOptions.Fair ⟨.bool true, 2, none, .lifecycle, none, List.range⟩ :=
    fun tasks => .refl (List.range tasks)
  obtain ⟨result, after, done⟩ := Analysis.run_ends Catalog.standard_texts accepting
    (.ofFiles [⟨"a.ets", [Analysis.abilityNamed "A", Analysis.abilityNamed "B"]⟩]) fair rfl .fresh
  exact ⟨listsOnce, result, after, done, Report.of_agrees listsOnce done⟩

end ArkLifecycle
