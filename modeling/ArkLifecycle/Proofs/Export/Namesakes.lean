import ArkLifecycle.Proofs.Coverage.Ranking
import ArkLifecycle.Proofs.Export.Drawing
import ArkLifecycle.Proofs.Export.NodeCap
import ArkLifecycle.Proofs.Json.Fields

/-! Callbacks that share a short name in the graph.

Methods may be overloaded and classes may have the same name, so several callbacks can have one
short name. The graph keeps the last one of them, at the place of the first. What the others lead to
is not drawn; so every target is drawn exactly if the others lead to nothing.
-/

namespace ArkLifecycle.Export

-----------------------------------------------------------------------------------------
-- What a callback leads to
-----------------------------------------------------------------------------------------

/-- (target? stmt) is what a statement leads to, if it leads to something. -/
def target? (stmt : Stmt) : Option Scalar :=
  (targetOf stmt.exprs).toOption.join

/-- The targets that statements lead to are told one by one. Witness: induction over the statements.
-/
theorem Leads.eq_filterMap {stmts : List Stmt} {targets : List Scalar} (leads : Leads stmts targets)
    : targets = stmts.filterMap target? := by
  induction leads with
  | nil => rfl
  | silent nothing _ ih => rw [List.filterMap_cons, target?, nothing, ih]; rfl
  | call leads _ ih => rw [List.filterMap_cons, target?, leads, ih]; rfl

namespace Source

/-- (ofRecord record) is a callback with all targets of its body. -/
def ofRecord {κ : Type} [Datum κ] (record : Record κ) : Source where
  callback := record.key
  targets := (bodyStmts record).filterMap target?

/-- (talks source) holds of a callback that leads to something. -/
def talks (source : Source) : Bool :=
  !source.targets.isEmpty

theorem talks_iff {source : Source} : source.talks = true ↔ source.targets ≠ [] := by
  rw [talks, Bool.not_eq_true', Bool.eq_false_iff, Ne, List.isEmpty_iff]

theorem length_edges (source : Source) : source.edges.length = source.targets.length :=
  List.length_map _

/-- Callbacks that lead to nothing have no edges. -/
theorem flatMap_edges_filter (sources : List Source)
    : (sources.filter talks).flatMap edges = sources.flatMap edges := by
  induction sources with
  | nil => rfl
  | cons source rest ih =>
      rw [List.filter_cons]
      cases silent : source.talks with
      | true => simp [ih]
      | false =>
          have none : source.targets = [] := by simpa [talks] using silent
          simp [ih, edges, none]

end Source

-----------------------------------------------------------------------------------------
-- What is kept
-----------------------------------------------------------------------------------------

/-- Which callbacks are kept: one with a new name comes last, and one with a name that is known
takes the place of the one that had it.
-/
inductive Keeps : List Source → List Source → Prop
  | nil : Keeps [] []
  | new {all kept : List Source} {source : Source} (before : Keeps all kept)
    (fresh : source.callback ∉ kept.map Source.callback)
    : Keeps (all ++ [source]) (kept ++ [source])
  | again {all left right : List Source} {old source : Source}
    (before : Keeps all (left ++ old :: right)) (same : old.callback = source.callback)
    : Keeps (all ++ [source]) (left ++ source :: right)

namespace Keeps

variable {all kept : List Source}

/-- The names that are kept stand where they are first met. -/
theorem names_eq (keeps : Keeps all kept)
    : kept.map Source.callback = (all.map Source.callback).eraseDups := by
  induction keeps with
  | nil => rfl
  | new _ fresh ih =>
      rw [ih, List.mem_eraseDups] at fresh
      rw [List.map_append, List.map_append, List.map_singleton, eraseDups_concat, if_neg fresh, ih]
  | @again all left right old source _ same ih =>
      have known : source.callback ∈ (all.map Source.callback).eraseDups := by
        rw [← ih, ← same]
        exact List.mem_map_of_mem List.mem_append_cons_self
      have names
          : (all ++ [source]).map Source.callback
            = all.map Source.callback ++ [source.callback] :=
        List.map_append
      rw [names, eraseDups_concat, if_pos (List.mem_eraseDups.mp known), ← ih]
      simp [same]

theorem nodup (keeps : Keeps all kept) : (kept.map Source.callback).Nodup := by
  rw [keeps.names_eq]
  exact eraseDups_nodup _

theorem mem (keeps : Keeps all kept) {source : Source} (member : source ∈ kept) : source ∈ all := by
  induction keeps with
  | nil => cases member
  | new _ _ ih =>
      rcases List.mem_append.mp member with before | last
      · exact List.mem_append_left _ (ih before)
      · exact List.mem_append_right _ last
  | again _ _ ih =>
      rcases List.mem_append.mp member with before | here
      · exact List.mem_append_left _ (ih (List.mem_append_left _ before))
      · rcases List.mem_cons.mp here with rfl | after
        · simp
        · exact List.mem_append_left _ (ih (List.mem_append_right _ (List.mem_cons_of_mem _ after)))

/-- Of callbacks with one name, all but the last lead to nothing. -/
def LastTalks (all : List Source) : Prop :=
  all.Pairwise fun earlier later => earlier.callback = later.callback → earlier.targets = []

theorem lastTalks_concat {source : Source}
    : LastTalks (all ++ [source])
      ↔ LastTalks all
        ∧ ∀ earlier ∈ all, earlier.callback = source.callback → earlier.targets = [] := by
  rw [LastTalks, List.pairwise_append]
  simp [LastTalks]

/-- Where only the last callback of every name leads somewhere, no callback that leads somewhere is
lost. Witness: induction over what is kept; a callback that gives way leads to nothing.
-/
theorem perm_of_lastTalks (keeps : Keeps all kept) (lasts : LastTalks all)
    : (kept.filter Source.talks).Perm (all.filter Source.talks) := by
  induction keeps with
  | nil => exact .nil
  | new _ _ ih =>
      rw [List.filter_append, List.filter_append]
      exact (ih (lastTalks_concat.mp lasts).1).append_right _
  | @again all left right old source before same ih =>
      obtain ⟨earlier, silent⟩ := lastTalks_concat.mp lasts
      have none : old.talks = false := by
        rw [Source.talks, silent old (before.mem List.mem_append_cons_self) same]
        rfl
      have others : ((left ++ right).filter Source.talks).Perm (all.filter Source.talks) := by
        have known := ih earlier
        rwa [List.filter_append, List.filter_cons_of_neg (by simp [none]), ← List.filter_append]
          at known
      have moved : (left ++ source :: right).Perm (left ++ right ++ [source]) := by
        rw [List.append_assoc]
        exact (List.perm_append_singleton source right).symm.append_left left
      have last (some : List Source)
          : (some ++ [source]).filter Source.talks
            = some.filter Source.talks ++ [source].filter Source.talks :=
        List.filter_append ..
      refine (moved.filter _).trans ?_
      rw [last, last]
      exact others.append_right _

/-- A callback that takes the place of an old one is the last one of its name to lead somewhere
exactly if the old one leads to nothing: the old one stood for all of them.
-/
theorem lastTalks_again {left right : List Source} {old source : Source}
    (before : Keeps all (left ++ old :: right)) (same : old.callback = source.callback)
    : LastTalks (all ++ [source]) ↔ LastTalks all ∧ old.targets = [] := by
  rw [lastTalks_concat]
  refine and_congr_right fun earlier => ⟨fun silent => ?_, fun none other member named => ?_⟩
  · exact silent old (before.mem List.mem_append_cons_self) same
  · by_contra talks
    have listed : other ∈ all.filter Source.talks :=
      List.mem_filter.mpr ⟨member, Source.talks_iff.mpr talks⟩
    have among : other ∈ left ++ old :: right :=
      List.mem_of_mem_filter ((before.perm_of_lastTalks earlier).mem_iff.mpr listed)
    have one : other = old := List.inj_on_of_nodup_map before.nodup among
      List.mem_append_cons_self (named.trans same.symm)
    exact talks (one ▸ none)

/-- The kept callbacks have at most all edges, and have all of them exactly if only the last
callback of every name leads somewhere. Witness: induction over what is kept.
-/
theorem length_edges (keeps : Keeps all kept)
    : (kept.flatMap Source.edges).length ≤ (all.flatMap Source.edges).length
      ∧ ((kept.flatMap Source.edges).length = (all.flatMap Source.edges).length
        ↔ LastTalks all) := by
  induction keeps with
  | nil => simp [LastTalks]
  | @new all kept source before fresh ih =>
      have first (earlier : Source) (member : earlier ∈ all)
          : earlier.callback ≠ source.callback := by
        intro same
        rw [before.names_eq, List.mem_eraseDups, ← same] at fresh
        exact fresh (List.mem_map_of_mem member)
      have lasts : LastTalks (all ++ [source]) ↔ LastTalks all := by
        rw [lastTalks_concat]
        exact and_iff_left fun earlier member same => absurd same (first earlier member)
      rw [lasts, ← ih.2]
      simp only [List.flatMap_append, List.length_append]
      omega
  | @again all left right old source before same ih =>
      -- The edges of the old callback are lost, those of the new one are there.
      have silent : old.targets = [] ↔ old.edges.length = 0 := by
        rw [Source.length_edges, List.length_eq_zero_iff]
      rw [lastTalks_again before same, ← ih.2, silent]
      have bound := ih.1
      simp only [List.flatMap_append, List.flatMap_cons, List.flatMap_nil, List.length_append,
        List.length_nil] at bound ⊢
      omega

/-- (metAt all name) is where a name is first met. -/
def metAt (all : List Source) (name : Text) : Nat :=
  all.findIdx fun source => source.callback = name

/-- The callbacks that lead somewhere come in the order in which their names are first met. -/
def MetInOrder (all : List Source) : Prop :=
  (all.filter Source.talks).Pairwise fun first second =>
    metAt all first.callback < metAt all second.callback

/-- What is kept comes in the order in which the names are first met. -/
theorem pairwise_metAt (keeps : Keeps all kept)
    : kept.Pairwise fun first second => metAt all first.callback < metAt all second.callback := by
  have ordered := pairwise_findIdx_eraseDups (some ∘ Source.callback) all
  rw [List.filterMap_eq_map, ← keeps.names_eq, List.pairwise_map] at ordered
  refine ordered.imp fun before => ?_
  simpa only [metAt, Function.comp_apply, Option.some.injEq] using before

/-- Different callbacks that are kept are not first met at one place. -/
theorem metAt_ne (keeps : Keeps all kept) {first second : Source} (one : first ∈ kept)
    (other : second ∈ kept) (apart : first ≠ second)
    : metAt all first.callback ≠ metAt all second.callback := by
  have places : (kept.map fun source => metAt all source.callback).Nodup :=
    List.pairwise_map.mpr (keeps.pairwise_metAt.imp fun before => before.ne)
  exact fun same => apart (List.inj_on_of_nodup_map places one other same)

/-- The edges that are drawn come in the order in which the names of their callbacks are first met.
-/
theorem edges_pairwise (keeps : Keeps all kept)
    : (kept.flatMap Source.edges).Pairwise fun first second =>
        metAt all first.1 ≤ metAt all second.1 := by
  have own {source : Source} {edge : Text × Scalar} (member : edge ∈ source.edges)
      : edge.1 = source.callback := by
    obtain ⟨target, -, rfl⟩ := List.mem_map.mp member
    rfl
  refine List.pairwise_flatMap.mpr ⟨fun source _ => ?_, ?_⟩
  · refine List.pairwise_of_forall_mem_list fun first one second other => ?_
    rw [own one, own other]
  · refine keeps.pairwise_metAt.imp fun before first one second other => ?_
    rw [own one, own other]
    exact before.le

/-- The edges that are drawn are those of all callbacks in order exactly if only the last callback
of every name leads somewhere, and those that do come in the order in which their names are first
met. Witness: both lists have the same callbacks with edges, and there is one way to order them.
-/
theorem edges_eq_iff (keeps : Keeps all kept)
    : kept.flatMap Source.edges = all.flatMap Source.edges ↔ LastTalks all ∧ MetInOrder all := by
  constructor
  · intro same
    have lasts := keeps.length_edges.2.mp (congrArg List.length same)
    have perm := keeps.perm_of_lastTalks lasts
    have once : (all.filter Source.talks).Nodup :=
      perm.nodup_iff.mp ((List.Nodup.of_map _ keeps.nodup).filter _)
    have sorted := keeps.edges_pairwise
    rw [same, ← Source.flatMap_edges_filter, List.pairwise_flatMap] at sorted
    refine ⟨lasts, (once.and sorted.2).imp_of_mem fun {first second} one other both => ?_⟩
    have kept {source : Source} (member : source ∈ all.filter Source.talks) : source ∈ kept :=
      List.mem_of_mem_filter (perm.mem_iff.mpr member)
    have edge {source : Source} (member : source ∈ all.filter Source.talks)
        : ∃ target, (source.callback, target) ∈ source.edges := by
      obtain ⟨target, led⟩ := List.exists_mem_of_ne_nil _
        (Source.talks_iff.mp (List.mem_filter.mp member).2)
      exact ⟨target, List.mem_map_of_mem led⟩
    obtain ⟨left, leaving⟩ := edge one
    obtain ⟨right, entering⟩ := edge other
    exact lt_of_le_of_ne (both.2 _ leaving _ entering)
      (keeps.metAt_ne (kept one) (kept other) both.1)
  · rintro ⟨lasts, ordered⟩
    have perm := keeps.perm_of_lastTalks lasts
    have same : kept.filter Source.talks = all.filter Source.talks := by
      refine perm.eq_of_pairwise (fun first second _ _ before after => ?_)
        (keeps.pairwise_metAt.filter _) ordered
      omega
    rw [← Source.flatMap_edges_filter kept, same, Source.flatMap_edges_filter]

end Keeps

-----------------------------------------------------------------------------------------
-- The edges of a graph
-----------------------------------------------------------------------------------------

/-- What is put under a new name comes last, and what is put under a known name takes the place of
what had it.
-/
theorem put_cases {α : Type} {fields : List (Text × α)} (apart : Json.Apart fields) (name : Text)
    (value : α)
    : (name ∉ fields.map Prod.fst ∧ Json.put fields name value = fields ++ [(name, value)])
      ∨ ∃ left old right,
          fields = left ++ (name, old) :: right
          ∧ Json.put fields name value = left ++ (name, value) :: right := by
  unfold Json.put
  split
  · next known =>
      obtain ⟨⟨title, old⟩, member, named⟩ := List.any_eq_true.mp known
      obtain rfl : title = name := eq_of_beq named
      obtain ⟨left, right, rfl⟩ := List.append_of_mem member
      obtain ⟨-, after, before⟩ := List.pairwise_append.mp apart
      have kept {some : List (Text × α)}
          (others : ∀ field ∈ some, Name.same field.1 title = false)
          : (some.map fun field =>
              if Name.same field.1 title then (field.1, value) else field) = some := by
        refine (List.map_congr_left fun field inside => ?_).trans (List.map_id' _)
        rw [others field inside]
        rfl
      have earlier := kept fun field inside => before field inside (title, old) List.mem_cons_self
      have later := kept fun field inside =>
        (Json.same_comm field.1 title).trans (List.rel_of_pairwise_cons after inside)
      refine .inr ⟨left, old, right, rfl, ?_⟩
      rw [List.map_append, List.map_cons, earlier, later, if_pos named]
  · next unknown =>
      refine .inl ⟨fun listed => unknown ?_, rfl⟩
      obtain ⟨field, member, same⟩ := List.mem_map.mp listed
      exact List.any_eq_true.mpr ⟨field, member, beq_iff_eq.mpr same⟩

section Records

variable {κ : Type} [Datum κ]

/-- (keptSources records) are the callbacks that the graph keeps. -/
def keptSources (records : List (Record κ)) : List Source :=
  (lifecycleRecords records).map fun entry => .ofRecord entry.2

/-- Callbacks that are kept under their short names have these names. -/
theorem map_callback_keptSources {records : List (Record κ)}
    (keyed : ∀ entry ∈ lifecycleRecords records, entry.1 = entry.2.key)
    : (keptSources records).map Source.callback = (lifecycleRecords records).map Prod.fst := by
  rw [keptSources, List.map_map]
  exact List.map_congr_left fun entry member => (keyed entry member).symm

/-- The graph keeps the last record of every short name at the place of the first.
Witness: induction over the records from their end.
-/
theorem lifecycleRecords_keeps (records : List (Record κ))
    : Json.Apart (lifecycleRecords records)
      ∧ (∀ entry ∈ lifecycleRecords records, entry.1 = entry.2.key)
      ∧ Keeps (records.map Source.ofRecord) (keptSources records) := by
  induction records using List.reverseRecOn with
  | nil => exact ⟨.nil, by simp [lifecycleRecords], .nil⟩
  | append_singleton records record ih =>
      obtain ⟨apart, keyed, keeps⟩ := ih
      have step
          : lifecycleRecords (records ++ [record])
            = Json.put (lifecycleRecords records) record.key record := by
        rw [lifecycleRecords, List.foldl_concat]
        rfl
      have names := map_callback_keptSources keyed
      rw [List.map_append, List.map_singleton, keptSources, step]
      refine ⟨apart.put _ _, ?_⟩
      rcases put_cases apart record.key record with ⟨fresh, put⟩ | ⟨left, old, right, split, put⟩
      · rw [put, List.map_append, List.map_singleton]
        refine ⟨fun entry member => ?_, .new keeps (names ▸ fresh)⟩
        rcases List.mem_append.mp member with before | last
        · exact keyed entry before
        · rw [List.mem_singleton.mp last]
      · rw [put, List.map_append, List.map_cons]
        rw [keptSources, split, List.map_append, List.map_cons] at keeps
        rw [split] at keyed
        have named : record.key = old.key := keyed (record.key, old) List.mem_append_cons_self
        refine ⟨fun entry member => ?_, .again keeps named.symm⟩
        rcases List.mem_append.mp member with before | here
        · exact keyed entry (List.mem_append_left _ before)
        · rcases List.mem_cons.mp here with rfl | after
          · rfl
          · exact keyed entry (List.mem_append_right _ (List.mem_cons_of_mem _ after))

/-- What callbacks lead to is what their records lead to. Witness: induction over the callbacks. -/
theorem eq_map_ofRecord {entries : List (Text × Record κ)}
    (keyed : ∀ entry ∈ entries, entry.1 = entry.2.key) {sources : List Source}
    (all : List.Forall₂ Source.Of entries sources)
    : sources = entries.map fun entry => .ofRecord entry.2 := by
  induction all with
  | nil => rfl
  | @cons entry source _ _ first _ ih =>
      obtain ⟨callback, targets⟩ := source
      have named : callback = entry.2.key := first.callback.trans (keyed entry List.mem_cons_self)
      rw [List.map_cons, ← ih fun entry member => keyed entry (List.mem_cons_of_mem _ member),
        Source.ofRecord, ← named, ← first.targets.eq_filterMap]

/-- (callCount records) is the number of statements in the bodies of all callbacks that lead to
something.
-/
def callCount (records : List (Record κ)) : Nat :=
  (records.flatMap bodyStmts).countP fun stmt => (target? stmt).isSome

theorem length_edges_eq_callCount (records : List (Record κ))
    : ((records.map Source.ofRecord).flatMap Source.edges).length = callCount records := by
  induction records with
  | nil => rfl
  | cons record rest ih =>
      rw [List.map_cons, List.flatMap_cons, List.length_append, ih, Source.length_edges, callCount,
        callCount, List.flatMap_cons, List.countP_append, Source.ofRecord,
        List.length_filterMap_eq_countP]

end Records

-----------------------------------------------------------------------------------------
-- Whether all edges are drawn
-----------------------------------------------------------------------------------------

/-- Where there are not too many edges, the graph is that of the callbacks that it keeps, the last
one of every short name: it declares the first of their nodes and draws all of their edges. There is
one edge for every statement that leads to something exactly if only the last callback of every name
leads somewhere. The edges come in the order of the records exactly if, moreover, the callbacks that
lead somewhere come in the order in which their names are first met. Witness: the edges of callbacks
that have to give way are the only ones that are lost.
-/
theorem dot_drawsAll_iff {records : List Record}
    (typed : ∀ record ∈ records, ∀ method ∈ record.method, CallGraph.CallsTyped method)
    (few : callCount records ≤ drawnEdges)
    : ∃ kept names, ∃ picture : Picture,
        Keeps (records.map Source.ofRecord) kept
        ∧ Scalar.FirstsOf (kept.flatMap Source.nodes) names
        ∧ Picture.Of (kept.map Source.callback) (names.take drawnNodes)
            (kept.flatMap Source.edges) picture
        ∧ dot records = .ok picture.written
        ∧ (picture.edges.length = callCount records
          ↔ Keeps.LastTalks (records.map Source.ofRecord))
        ∧ (kept.flatMap Source.edges = (records.map Source.ofRecord).flatMap Source.edges
          ↔ Keeps.LastTalks (records.map Source.ofRecord)
            ∧ Keeps.MetInOrder (records.map Source.ofRecord)) := by
  obtain ⟨-, keyed, keeps⟩ := lifecycleRecords_keeps records
  obtain ⟨text, done⟩ := dot_typed typed
  obtain ⟨drawn, picture, begun, shows, rfl⟩ := dot_eq_ok_iff.mp done
  obtain ⟨sources, all, firsts, edges, callbacks⟩ := drawing_eq_ok begun
  obtain rfl : sources = keptSources records := eq_map_ofRecord keyed all
  have count := keeps.length_edges
  rw [length_edges_eq_callCount] at count
  have whole : drawn.edges.take drawnEdges = drawn.edges :=
    List.take_of_length_le (edges ▸ count.1.trans few)
  rw [whole, edges, callbacks, ← map_callback_keptSources keyed] at shows
  refine ⟨keptSources records, drawn.nodes, picture, keeps, firsts, shows, done, ?_,
    keeps.edges_eq_iff⟩
  rw [← shows.edges.length_eq]
  exact count.2

/-- The first of two callbacks of one name leads to nothing, and the graph draws all calls. -/
theorem dot_drawsAll_iff_silent
    : callCount [calling [], calling ["t", "u", "t"]] ≤ drawnEdges
      ∧ ∃ picture : Picture,
          dot [calling [], calling ["t", "u", "t"]] = .ok picture.written
          ∧ picture.edges.length = callCount [calling [], calling ["t", "u", "t"]] := by
  have typed
      : ∀ record ∈ [calling [], calling ["t", "u", "t"]],
          ∀ method ∈ record.method, CallGraph.CallsTyped method := by
    rw [List.forall_mem_cons, List.forall_mem_singleton]
    exact ⟨calling_typed _, calling_typed _⟩
  have few : callCount [calling [], calling ["t", "u", "t"]] ≤ drawnEdges := by decide +kernel
  obtain ⟨_, _, picture, -, -, -, done, count, -⟩ := dot_drawsAll_iff typed few
  refine ⟨few, picture, done, count.mpr ?_⟩
  exact List.pairwise_pair.mpr fun _ => rfl

/-- (overloaded) is the picture of the second of two callbacks of one name. -/
def overloaded : Picture where
  nodes := [declare ["A.onCreate"] "A.onCreate", declare ["A.onCreate"] "u"]
  edges := [("A.onCreate", "u")]

/-- Of two callbacks of one name that call something, the graph draws the last one. -/
theorem dot_overloaded
    : callCount [calling ["t"], calling ["u"]] = 2
      ∧ dot [calling ["t"], calling ["u"]] = .ok overloaded.written
      ∧ overloaded.edges.length = 1 := by
  have begun
      : drawing [calling ["t"], calling ["u"]]
        = .ok {
            callbacks := ["A.onCreate"]
            nodes := [.text "A.onCreate", .text "u"]
            edges := [("A.onCreate", .text "u")] } := by
    decide +kernel
  have shows
      : Picture.Of ["A.onCreate"] [.text "A.onCreate", .text "u"] [("A.onCreate", .text "u")]
          overloaded := by
    constructor
    · exact .cons ⟨_, rfl, rfl⟩ (.cons ⟨_, rfl, rfl⟩ .nil)
    · exact .cons ⟨_, rfl, by decide +kernel⟩ .nil
  exact ⟨by decide +kernel, dot_eq_ok_iff.mpr ⟨_, overloaded, begun, shows, rfl⟩, rfl⟩

end ArkLifecycle.Export
