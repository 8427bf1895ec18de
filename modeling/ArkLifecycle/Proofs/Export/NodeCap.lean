import ArkLifecycle.Proofs.Export.Drawing
import ArkLifecycle.Proofs.Export.Picture
import Mathlib.Data.List.Dedup

/-! The two caps of the graph of callbacks.

There is a cap on the nodes that are declared and another one on the edges that are drawn, and
neither asks for the other: the first edges are all drawn, also those that lead to nodes beyond the
cap. A reader of the text shows such a node without a label. There is none when all nodes are
declared, or when the ends of the first edges have the identifiers of first nodes, and then the cap
on the nodes holds of all that is shown.
-/

namespace ArkLifecycle.Export

variable {κ : Type}

namespace Picture

/-- (declared picture) are the identifiers of the nodes that are declared. -/
def declared (picture : Picture) : List Text :=
  picture.nodes.map Declaration.identifier

/-- Every edge joins two declared nodes. -/
def Closed (picture : Picture) : Prop :=
  ∀ edge ∈ picture.edges, edge.1 ∈ picture.declared ∧ edge.2 ∈ picture.declared

instance (picture : Picture) : Decidable picture.Closed :=
  inferInstanceAs (Decidable (∀ edge ∈ picture.edges,
    edge.1 ∈ picture.declared ∧ edge.2 ∈ picture.declared))

/-- (shown picture) are the identifiers of all nodes that a reader shows: those that are declared,
and the ends of edges.
-/
def shown (picture : Picture) : List Text :=
  (picture.declared ++ picture.edges.flatMap fun edge => [edge.1, edge.2]).dedup

/-- A closed picture shows no other nodes than those that are declared. -/
theorem Closed.length_shown_le {picture : Picture} (closed : picture.Closed)
    : picture.shown.length ≤ picture.nodes.length := by
  have inside : picture.shown ⊆ picture.declared := by
    intro id member
    rcases List.mem_append.mp (List.mem_dedup.mp member) with declared | joined
    · exact declared
    · obtain ⟨edge, listed, ending⟩ := List.mem_flatMap.mp joined
      obtain ⟨left, right⟩ := closed edge listed
      rcases List.mem_pair.mp ending with rfl | rfl
      · exact left
      · exact right
  have fewer := (List.nodup_dedup _).length_le_of_subset inside
  rwa [declared, List.length_map] at fewer

end Picture

/-- (spelling node) is the identifier of a node that is a text. -/
def spelling : Scalar → Option Text
  | .text name => some (identifier name)
  | _ => none

/-- The ends of all these edges have the identifiers of some names. -/
def EndsSpelled (names : List Scalar) (joined : List (Text × Scalar)) : Prop :=
  ∀ edge ∈ joined,
    spelling (.text edge.1) ∈ names.map spelling ∧ spelling edge.2 ∈ names.map spelling

namespace Picture

variable {callbacks : List Text} {names : List Scalar} {joined : List (Text × Scalar)}
  {picture : Picture}

theorem Of.spelled_names (shows : Picture.Of callbacks names joined picture)
    : names.map spelling = picture.declared.map some := by
  rw [declared, List.map_map]
  refine map_eq_of_forall₂ (fun name node shown => ?_) shows.nodes
  obtain ⟨text, rfl, rfl⟩ := shown
  rfl

theorem Of.spelled_edges (shows : Picture.Of callbacks names joined picture)
    : joined.map (fun edge => (spelling (.text edge.1), spelling edge.2))
      = picture.edges.map fun edge => (some edge.1, some edge.2) := by
  refine map_eq_of_forall₂ (fun edge line linked => ?_) shows.edges
  obtain ⟨text, told, rfl⟩ := linked
  rw [told]
  rfl

/-- A picture is closed exactly if the ends of its edges have the identifiers of its names. -/
theorem Of.closed_iff (shows : Picture.Of callbacks names joined picture)
    : picture.Closed ↔ EndsSpelled names joined := by
  have ends
      : EndsSpelled names joined
        ↔ ∀ edge ∈ joined.map fun edge => (spelling (.text edge.1), spelling edge.2),
            edge.1 ∈ names.map spelling ∧ edge.2 ∈ names.map spelling := by
    rw [List.forall_mem_map]
    rfl
  rw [ends, shows.spelled_edges, shows.spelled_names, List.forall_mem_map]
  simp only [List.mem_map, Option.some_inj, exists_eq_right]
  rfl

/-- Only texts are joined. -/
theorem Of.text_of_mem (shows : Picture.Of callbacks names joined picture)
    {edge : Text × Scalar} (member : edge ∈ joined)
    : ∃ name, edge.2 = .text name := by
  have listed := List.mem_map_of_mem (f := fun edge => (spelling (.text edge.1), spelling edge.2))
    member
  rw [shows.spelled_edges] at listed
  obtain ⟨line, -, same⟩ := List.mem_map.mp listed
  have spelled : some line.2 = spelling edge.2 := (Prod.mk.inj same).2
  unfold spelling at spelled
  split at spelled
  · next name told => exact ⟨name, told⟩
  · cases spelled

end Picture

/-- Edges whose ends stand among some names have the identifiers of these names. -/
theorem endsSpelled_of_mem {names : List Scalar} {joined : List (Text × Scalar)}
    (sources : ∀ edge ∈ joined, .text edge.1 ∈ names) (targets : ∀ edge ∈ joined, edge.2 ∈ names)
    : EndsSpelled names joined :=
  fun edge member =>
    ⟨List.mem_map_of_mem (sources edge member), List.mem_map_of_mem (targets edge member)⟩

/-- The ends of an edge are nodes of its source. -/
theorem Source.mem_nodes {sources : List Source} {edge : Text × Scalar}
    (member : edge ∈ sources.flatMap Source.edges)
    : .text edge.1 ∈ sources.flatMap Source.nodes ∧ edge.2 ∈ sources.flatMap Source.nodes := by
  obtain ⟨source, listed, member⟩ := List.mem_flatMap.mp member
  obtain ⟨target, led, rfl⟩ := List.mem_map.mp member
  exact ⟨List.mem_flatMap.mpr ⟨source, listed, List.mem_cons_self⟩,
    List.mem_flatMap.mpr ⟨source, listed, List.mem_cons_of_mem _ led⟩⟩

/-- The text of a graph declares its first nodes and draws its first edges, each up to a cap of its
own. Every edge of it joins two declared nodes exactly if the ends of the first edges have the
identifiers of first nodes, and so when there are no other nodes. Then no more nodes are shown than
may be declared.
Witness: the ends of an edge are met before it is, and a text is kept where it is first met.
-/
theorem dot_closed_iff [Datum κ] {records : List (Record κ)} {text : Text}
    (done : dot records = .ok text)
    : ∃ sources names picture,
        List.Forall₂ Source.Of (lifecycleRecords records) sources
        ∧ Scalar.FirstsOf (sources.flatMap Source.nodes) names
        ∧ Picture.Of ((lifecycleRecords records).map Prod.fst) (names.take drawnNodes)
            ((sources.flatMap Source.edges).take drawnEdges) picture
        ∧ text = picture.written
        ∧ (picture.Closed
          ↔ EndsSpelled (names.take drawnNodes) ((sources.flatMap Source.edges).take drawnEdges))
        ∧ (names.length ≤ drawnNodes → picture.Closed)
        ∧ (picture.Closed → picture.shown.length ≤ drawnNodes) := by
  obtain ⟨drawn, picture, begun, shows, written⟩ := dot_eq_ok_iff.mp done
  obtain ⟨sources, all, firsts, edges, callbacks⟩ := drawing_eq_ok begun
  rw [edges, callbacks] at shows
  refine ⟨sources, drawn.nodes, picture, all, firsts, shows, written, shows.closed_iff,
    fun few => ?_, fun closed => ?_⟩
  · rw [shows.closed_iff]
    rw [List.take_of_length_le few] at shows ⊢
    refine endsSpelled_of_mem (fun edge member => ?_) (fun edge member => ?_)
    · exact firsts.text_mem (Source.mem_nodes (List.mem_of_mem_take member)).1
    · obtain ⟨name, told⟩ := shows.text_of_mem member
      have met := (Source.mem_nodes (List.mem_of_mem_take member)).2
      rw [told] at met ⊢
      exact firsts.text_mem met
  · have declared : picture.nodes.length = (drawn.nodes.take drawnNodes).length :=
      shows.nodes.length_eq.symm
    calc
      picture.shown.length ≤ picture.nodes.length := closed.length_shown_le
      _ = (drawn.nodes.take drawnNodes).length := declared
      _ ≤ drawnNodes := List.length_take_le _ _

/-- (calling targets) is a callback that calls these targets one after the other. -/
def calling (targets : List Text) : Record where
  methodName := "onCreate"
  kind := .ability
  className := "A"
  filePath := "a.ets"
  line := 1
  hasImplementation := true
  signature := ""
  method := some {
    name := "onCreate"
    className := "A"
    signature := ""
    filePath := "a.ets"
    line := 1
    column := 0
    cfg := some ⟨[⟨0, targets.map fun target => ⟨"", 1, 0, [⟨"", .signature target⟩]⟩⟩]⟩ }

/-- What such a callback calls is typed. -/
theorem calling_typed (targets : List Text)
    : ∀ method ∈ (calling targets).method, CallGraph.CallsTyped method := by
  simp [calling, CallGraph.CallsTyped, Cfg.stmts]

/-- A callback that calls one of two targets again has a picture. -/
theorem dot_closed_iff_calling
    : ∃ text sources names, ∃ picture : Picture,
        dot [calling ["t", "u", "t"]] = .ok text
        ∧ List.Forall₂ Source.Of (lifecycleRecords [calling ["t", "u", "t"]]) sources
        ∧ Scalar.FirstsOf (sources.flatMap Source.nodes) names
        ∧ text = picture.written
        ∧ (picture.Closed
          ↔ EndsSpelled (names.take drawnNodes) ((sources.flatMap Source.edges).take drawnEdges))
        ∧ (names.length ≤ drawnNodes → picture.Closed) := by
  have told : (dot [calling ["t", "u", "t"]]).toOption.isSome = true := by decide +kernel
  cases done : dot [calling ["t", "u", "t"]] with
  | error fault =>
      rw [done] at told
      cases told
  | ok text =>
      obtain ⟨sources, names, picture, all, firsts, -, written, closed, few, -⟩ :=
        dot_closed_iff done
      exact ⟨text, sources, names, picture, rfl, all, firsts, written, closed, few⟩

/-- (crowd) are more targets than nodes are drawn. -/
def crowd : List Text :=
  (List.range 51).map fun n => "t" ++ Text.ofNat n

/-- (crowded) is the picture of a callback that calls a crowd. -/
def crowded : Picture where
  nodes := (Text.ofString "A.onCreate" :: crowd.take 49).map (declare ["A.onCreate"])
  edges := crowd.map fun target => (identifier "A.onCreate", identifier target)

/-- A callback that calls a crowd is joined to nodes beyond the cap, so more nodes are shown than
are declared.
-/
theorem dot_crowded
    : dot [calling crowd] = .ok crowded.written
      ∧ crowded.nodes.length = drawnNodes
      ∧ ¬crowded.Closed
      ∧ drawnNodes < crowded.shown.length := by
  have begun
      : drawing [calling crowd]
        = .ok {
            callbacks := ["A.onCreate"]
            nodes := (Text.ofString "A.onCreate" :: crowd).map Scalar.text
            edges := crowd.map fun target => ("A.onCreate", .text target) } := by
    decide +kernel
  have shows
      : Picture.Of ["A.onCreate"]
          (((Text.ofString "A.onCreate" :: crowd).map Scalar.text).take drawnNodes)
          ((crowd.map fun target => (Text.ofString "A.onCreate", Scalar.text target)).take
            drawnEdges)
          crowded := by
    constructor
    · rw [← List.map_take, List.forall₂_map_left_iff, crowded, List.forall₂_map_right_iff]
      exact List.forall₂_same.mpr fun text _ => ⟨text, rfl, rfl⟩
    · rw [← List.map_take, List.forall₂_map_left_iff, crowded, List.forall₂_map_right_iff]
      exact List.forall₂_same.mpr fun text _ => ⟨text, rfl, rfl⟩
  exact ⟨dot_eq_ok_iff.mpr ⟨_, crowded, begun, shows, rfl⟩, by decide +kernel⟩

end ArkLifecycle.Export
