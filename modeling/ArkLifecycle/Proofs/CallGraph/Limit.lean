import ArkLifecycle.Proofs.CallGraph.Reachability

/-! What a limit on the nodes leaves of a call graph.

A limited exploration meets nodes in the same order as one without a limit, and stops to list them
at some point. Both are followed side by side: the limited graph is at every moment the part of the
other one that lies on the first nodes, also when it has long stopped to grow.
-/

namespace ArkLifecycle.CallGraph

open Activity

variable {ν : Type} [BEq ν] [LawfulBEq ν]

-----------------------------------------------------------------------------------------
-- The part of a graph on its first nodes
-----------------------------------------------------------------------------------------

/-- (restrict count graph) is the part of a graph on its first `count` nodes: these nodes, and every
edge between two of them.
-/
def restrict (count : Nat) (graph : CallGraph ν) : CallGraph ν where
  nodes := graph.nodes.take count
  edges := graph.edges.filter fun edge =>
    (graph.nodes.take count).contains edge.1 && (graph.nodes.take count).contains edge.2

/-- Every edge of the graph joins two of its nodes. -/
def EdgesInside (graph : CallGraph ν) : Prop :=
  ∀ edge ∈ graph.edges, edge.1 ∈ graph.nodes ∧ edge.2 ∈ graph.nodes

omit [BEq ν] [LawfulBEq ν] in
/-- A new edge between known nodes stays inside. -/
theorem EdgesInside.addEdge {graph : CallGraph ν} (inside : EdgesInside graph)
    {caller callee : ν} (listed : caller ∈ graph.nodes) (known : callee ∈ graph.nodes)
    : EdgesInside { graph with edges := graph.edges ++ [(caller, callee)] } := by
  intro edge member
  rcases List.mem_append.mp member with old | new
  · exact inside edge old
  · rw [List.mem_singleton.mp new]
    exact ⟨listed, known⟩

omit [BEq ν] [LawfulBEq ν] in
/-- A new node may bring an edge to itself. -/
theorem EdgesInside.addNode {graph : CallGraph ν} (inside : EdgesInside graph)
    {caller : ν} (listed : caller ∈ graph.nodes) (callee : ν)
    : EdgesInside ⟨graph.nodes ++ [callee], graph.edges ++ [(caller, callee)]⟩ := by
  intro edge member
  rcases List.mem_append.mp member with old | new
  · exact ⟨List.mem_append_left _ (inside edge old).1, List.mem_append_left _ (inside edge old).2⟩
  · rw [List.mem_singleton.mp new]
    exact ⟨List.mem_append_left _ listed, by simp⟩

/-- A graph without more nodes than that is kept as a whole. -/
theorem restrict_of_length_le {count : Nat} {graph : CallGraph ν} (inside : EdgesInside graph)
    (fits : graph.nodes.length ≤ count)
    : restrict count graph = graph := by
  have kept : ∀ edge ∈ graph.edges,
      (graph.nodes.contains edge.1 && graph.nodes.contains edge.2) = true := by
    intro edge member
    simp [inside edge member]
  rw [restrict, List.take_of_length_le fits, List.filter_eq_self.mpr kept]

/-- An edge is kept when both of its ends are. -/
theorem restrict_addEdge_kept {count : Nat} {graph : CallGraph ν} {caller callee : ν}
    (kept : caller ∈ graph.nodes.take count) (also : callee ∈ graph.nodes.take count)
    : restrict count { graph with edges := graph.edges ++ [(caller, callee)] }
      = { restrict count graph with
          edges := (restrict count graph).edges ++ [(caller, callee)] } := by
  simp [restrict, kept, also]

/-- An edge to a node that is left out is left out. -/
theorem restrict_addEdge_dropped {count : Nat} {graph : CallGraph ν} (caller : ν) {callee : ν}
    (dropped : callee ∉ graph.nodes.take count)
    : restrict count { graph with edges := graph.edges ++ [(caller, callee)] }
      = restrict count graph := by
  simp [restrict, dropped]

/-- Edges from a node that is left out are left out, whatever nodes they bring. -/
theorem restrict_addCalls_dropped {count : Nat} {graph : CallGraph ν} {caller : ν}
    (fresh callees : List ν) (enough : count ≤ graph.nodes.length)
    (dropped : caller ∉ graph.nodes.take count)
    : restrict count
          ⟨graph.nodes ++ fresh, graph.edges ++ callees.map fun callee => (caller, callee)⟩
      = restrict count graph := by
  simp only [restrict, List.take_append_of_le_length enough, List.filter_append]
  have none : (callees.map fun callee => (caller, callee)).filter (fun edge =>
      (graph.nodes.take count).contains edge.1 && (graph.nodes.take count).contains edge.2)
      = [] := by
    simp [List.filter_eq_nil_iff, dropped]
  rw [none, List.append_nil]

/-- A node behind the first ones is left out with the edge that leads to it. -/
theorem restrict_addNode_beyond {count : Nat} {graph : CallGraph ν} (caller : ν) {callee : ν}
    (enough : count ≤ graph.nodes.length) (new : callee ∉ graph.nodes)
    : restrict count ⟨graph.nodes ++ [callee], graph.edges ++ [(caller, callee)]⟩
      = restrict count graph := by
  have dropped : callee ∉ graph.nodes.take count := fun member => new (List.mem_of_mem_take member)
  simp [restrict, List.take_append_of_le_length enough, dropped]

-----------------------------------------------------------------------------------------
-- The calls of one node
-----------------------------------------------------------------------------------------

/-- The limit on the nodes of a graph lets exactly `count` nodes in, unless the graph has as many
already: then it lets in no more.
-/
structure Admits (limit : Int) (count : Nat) (graph : CallGraph ν) : Prop where
  most : limit ≤ count
  least : graph.nodes.length < count → count ≤ limit

omit [BEq ν] [LawfulBEq ν] in
theorem Admits.grow {limit : Int} {count : Nat} {graph grown : CallGraph ν}
    (admits : Admits limit count graph) (longer : graph.nodes.length ≤ grown.nodes.length)
    : Admits limit count grown :=
  ⟨admits.most, fun short => admits.least (Nat.lt_of_le_of_lt longer short)⟩

omit [LawfulBEq ν] in
/-- A known callee gives an edge and nothing else. -/
theorem addCalls_known (limit : Option Json) (caller : ν) {graph : CallGraph ν} {callee : ν}
    (rest : List ν) (known : graph.nodes.contains callee = true)
    : addCalls limit caller graph (callee :: rest)
      = addCalls limit caller { graph with edges := graph.edges ++ [(caller, callee)] } rest := by
  rw [addCalls, if_pos known]

omit [LawfulBEq ν] in
/-- A new callee is passed over when the graph is full, and is a node otherwise. -/
theorem addCalls_new {limit : Option Json} (caller : ν) {graph : CallGraph ν} {callee : ν}
    (rest : List ν) (new : graph.nodes.contains callee = false) {full : Bool}
    (decided : isFull limit graph.nodes.length = .ok full)
    : addCalls limit caller graph (callee :: rest)
      = addCalls limit caller
          (if full then graph
            else ⟨graph.nodes ++ [callee], graph.edges ++ [(caller, callee)]⟩)
          rest := by
  rw [addCalls, new, if_neg Bool.false_ne_true, decided]
  cases full <;> rfl

/-- When the kept part has all the nodes it is to have, a callee that is left out is passed over. -/
theorem addCalls_passed {limit : Int} {count : Nat} (caller : ν) {graph : CallGraph ν} {callee : ν}
    (rest : List ν) (admits : Admits limit count graph) (enough : count ≤ graph.nodes.length)
    (dropped : callee ∉ graph.nodes.take count)
    : addCalls (some (.int limit)) caller (restrict count graph) (callee :: rest)
      = addCalls (some (.int limit)) caller (restrict count graph) rest := by
  have full : limit ≤ ((graph.nodes.take count).length : Nat) := by
    rw [List.length_take_of_le enough]
    exact admits.most
  have decided : isFull (some (.int limit)) (restrict count graph).nodes.length = .ok true :=
    congrArg Except.ok (decide_eq_true full)
  have missing : (restrict count graph).nodes.contains callee = false := by
    simpa [restrict] using dropped
  exact addCalls_new caller rest missing decided

/-- The calls of a kept node are added to the kept part as they are added to the whole.
Witness: induction over the calls. While nodes are let in the kept part is the whole graph; after
that a callee is either kept already or passed over, as the edge to it is left out.
-/
theorem addCalls_restrict {limit : Int} {count : Nat} {caller : ν} (callees : List ν)
    (graph : CallGraph ν) {grown : CallGraph ν} (admits : Admits limit count graph)
    (inside : EdgesInside graph) (kept : caller ∈ graph.nodes.take count)
    (added : addCalls none caller graph callees = .ok grown)
    : addCalls (some (.int limit)) caller (restrict count graph) callees
      = .ok (restrict count grown) := by
  induction callees generalizing graph with
  | nil =>
      cases added
      rfl
  | cons callee rest ih =>
      have listed : caller ∈ graph.nodes := List.mem_of_mem_take kept
      by_cases known : callee ∈ graph.nodes
      · rw [addCalls_known none caller rest (List.contains_iff_mem.mpr known)] at added
        have later := ih { graph with edges := graph.edges ++ [(caller, callee)] }
          (admits.grow (Nat.le_refl _)) (inside.addEdge listed known) kept added
        by_cases also : callee ∈ graph.nodes.take count
        · rw [restrict_addEdge_kept kept also] at later
          exact (addCalls_known _ caller rest (List.contains_iff_mem.mpr also)).trans later
        · rw [restrict_addEdge_dropped caller also] at later
          have short : count < graph.nodes.length := by
            rcases Nat.lt_or_ge count graph.nodes.length with short | whole
            · exact short
            · rw [List.take_of_length_le whole] at also
              exact absurd known also
          exact (addCalls_passed caller rest admits (Nat.le_of_lt short) also).trans later
      · have new : graph.nodes.contains callee = false := by simpa using known
        rw [addCalls_new caller rest new rfl] at added
        have extended : caller ∈ (graph.nodes ++ [callee]).take count := by
          rw [List.take_append]
          exact List.mem_append_left _ kept
        have later := ih ⟨graph.nodes ++ [callee], graph.edges ++ [(caller, callee)]⟩
          (admits.grow (by simp)) (inside.addNode listed callee) extended added
        rcases Nat.lt_or_ge graph.nodes.length count with room | enough
        · have vacant : ¬ limit ≤ (graph.nodes.length : Nat) := by
            have least := admits.least room
            omega
          have decided : isFull (some (.int limit)) graph.nodes.length = .ok false :=
            congrArg Except.ok (decide_eq_false vacant)
          rw [restrict_of_length_le (inside.addNode listed callee)
            (by simpa using Nat.succ_le_of_lt room)] at later
          rw [restrict_of_length_le inside (Nat.le_of_lt room)]
          exact (addCalls_new caller rest new decided).trans later
        · rw [restrict_addNode_beyond caller enough known] at later
          exact (addCalls_passed caller rest admits enough
            fun member => known (List.mem_of_mem_take member)).trans later

-----------------------------------------------------------------------------------------
-- The exploration with a limit and the one without
-----------------------------------------------------------------------------------------

omit [LawfulBEq ν] in
/-- The graph of an exploration in progress has no other edges than those between its nodes. -/
theorem Frontier.edgesInside {callees : ν → List ν} {entries : List ν} {next : Nat}
    {graph : CallGraph ν} (frontier : Frontier callees entries next graph)
    : EdgesInside graph := by
  intro edge member
  rw [frontier.edges] at member
  obtain ⟨caller, expanded, call⟩ := List.mem_flatMap.mp member
  obtain ⟨callee, called, rfl⟩ := List.mem_map.mp call
  exact ⟨List.mem_of_mem_take expanded, frontier.expanded caller expanded callee called⟩

/-- Expanding a node behind the first ones does not change the part on these.
Witness: the node is not one of the first ones, as no node is listed twice.
-/
theorem Frontier.restrict_expand {callees : ν → List ν} {entries : List ν} {next count : Nat}
    {graph grown : CallGraph ν} {caller : ν} (frontier : Frontier callees entries next graph)
    (found : graph.nodes[next]? = some caller) (beyond : count ≤ next)
    (added : addCalls none caller graph (callees caller) = .ok grown)
    : restrict count grown = restrict count graph := by
  obtain ⟨fresh, same, -⟩ := addCalls_unlimited caller graph (callees caller)
  obtain ⟨inside, here⟩ := List.getElem?_eq_some_iff.mp found
  have dropped : caller ∉ graph.nodes.take count := by
    intro member
    obtain ⟨place, before, there⟩ := List.mem_take_iff_getElem.mp member
    have twice := (List.getElem_inj frontier.unique).mp (here.trans there.symm)
    omega
  cases same.symm.trans added
  exact restrict_addCalls_dropped fresh _ (Nat.le_trans beyond (Nat.le_of_lt inside)) dropped

/-- Once all nodes of the kept part are expanded, an exploration no longer changes it.
Witness: induction on the fuel.
-/
theorem explore_beyond {host : Host} {about : Query → Prop} {callees : ν → List ν}
    {expand : ν → Activity (List ν)} {entries : List ν} {count : Nat}
    (told : ∀ node, Answers host about (expand node) (.ok (callees node)))
    (fuel next : Nat) (graph : CallGraph ν) (frontier : Frontier callees entries next graph)
    (beyond : count ≤ next)
    : ∃ final,
        Answers host about (explore none expand fuel next graph) (.ok final)
        ∧ restrict count final = restrict count graph := by
  induction fuel generalizing next graph with
  | zero => exact ⟨graph, .pure graph, rfl⟩
  | succ fuel ih =>
      cases found : graph.nodes[next]? with
      | none =>
          simp only [explore, found]
          exact ⟨graph, .pure graph, rfl⟩
      | some caller =>
          obtain ⟨grown, added, moved⟩ := frontier.expand found
          obtain ⟨final, rest, same⟩ := ih (next + 1) grown moved (Nat.le_succ_of_le beyond)
          refine ⟨final, ?_, same.trans (frontier.restrict_expand found beyond added)⟩
          simp only [explore, found]
          refine (told caller).bind_ok (Answers.bind_ok ?_ rest)
          rw [added]
          exact .lift _

/-- An exploration with a limit gives the part of the unlimited graph on its first nodes.
Witness: induction on the fuel. As long as there are kept nodes to expand both expand the same one;
after that the limited exploration has ended, and the other one changes nothing in the kept part.
-/
theorem explore_restrict {host : Host} {about : Query → Prop} {callees : ν → List ν}
    {expand : ν → Activity (List ν)} {entries : List ν} {limit : Int} {count : Nat}
    (told : ∀ node, Answers host about (expand node) (.ok (callees node)))
    (fuel next : Nat) (graph : CallGraph ν) (frontier : Frontier callees entries next graph)
    (admits : Admits limit count graph)
    : ∃ final,
        Answers host about (explore none expand fuel next graph) (.ok final)
        ∧ Answers host about
            (explore (some (.int limit)) expand fuel next (restrict count graph))
            (.ok (restrict count final)) := by
  induction fuel generalizing next graph with
  | zero => exact ⟨graph, .pure graph, .pure _⟩
  | succ fuel ih =>
      rcases Nat.lt_or_ge next count with expanding | beyond
      · have taken : (restrict count graph).nodes[next]? = graph.nodes[next]? :=
          List.getElem?_take_of_lt expanding
        cases found : graph.nodes[next]? with
        | none =>
            simp only [explore, taken, found]
            exact ⟨graph, .pure graph, .pure _⟩
        | some caller =>
            obtain ⟨grown, added, moved⟩ := frontier.expand found
            have longer : graph.nodes.length ≤ grown.nodes.length := by
              obtain ⟨fresh, same, -⟩ := addCalls_unlimited caller graph (callees caller)
              cases same.symm.trans added
              simp
            obtain ⟨final, rest, limited⟩ := ih (next + 1) grown moved (admits.grow longer)
            have kept : caller ∈ graph.nodes.take count :=
              List.mem_of_getElem? (taken.trans found)
            refine ⟨final, ?_, ?_⟩
            · simp only [explore, found]
              refine (told caller).bind_ok (Answers.bind_ok ?_ rest)
              rw [added]
              exact .lift _
            · simp only [explore, taken, found]
              refine (told caller).bind_ok (Answers.bind_ok ?_ limited)
              rw [addCalls_restrict _ graph admits frontier.edgesInside kept added]
              exact .lift _
      · obtain ⟨final, done, same⟩ := explore_beyond told (fuel + 1) next graph frontier beyond
        have ended : (restrict count graph).nodes[next]? = none := by
          rw [List.getElem?_eq_none_iff]
          exact Nat.le_trans (List.length_take_le _ _) beyond
        refine ⟨final, done, ?_⟩
        rw [same]
        simp only [explore, ended]
        exact .pure _

-----------------------------------------------------------------------------------------
-- The limited call graph of a program
-----------------------------------------------------------------------------------------

/-- In a program with typed calls every node has callees, and an obliging host tells them. -/
theorem calleesOf_typed (host : Host) {files : List SourceFile}
    (typed : ∀ method ∈ Program.methodsOf files, CallsTyped method)
    (synthetic : List SyntheticMethod)
    : ∃ callees : Text → List Text,
        (∀ node, calleesIn (Program.ofFiles files) synthetic node = .ok (callees node))
        ∧ ∀ node,
            Answers host (fun _ => True) (calleesOf host (Program.ofFiles files) synthetic node)
              (.ok (callees node)) := by
  obtain ⟨callees, told⟩ := Classical.skolem.mp (calleesIn_typed typed synthetic)
  exact ⟨callees, told, fun node =>
    told node ▸ calleesOf_answers host (Program.ofFiles files) synthetic node⟩

/-- A call graph is what the exploration from its entry points gives. -/
theorem build_explored {host : Host} (obliging : host.Obliging) {program : Program}
    {synthetic : List SyntheticMethod} {limit : Option Json} {entries : List Text}
    {graph : CallGraph} {about : Query → Prop}
    (explored
      : Answers host about
          (explore limit (calleesOf host program synthetic)
            (sizeBound program synthetic entries + 1) 0 (roots entries))
          (.ok graph))
    (session : Session)
    : ∃ after,
        outcome (build host program synthetic limit entries) session = (.ok graph, after) := by
  obtain ⟨after, -, done, -⟩ := (explored.span "tool.cha_callgraph"
    [("entry_count", .ofNat (roots entries).nodes.length)]).obliged obliging session
  exact ⟨after, done⟩

/-- The exploration of a program with a limit gives the part of the unlimited graph on the first
nodes, as many as the limit says and never fewer than the distinct entry points.
Witness: the entry points are listed before anything is expanded.
-/
theorem explore_limited {host : Host} {about : Query → Prop} {callees : ν → List ν}
    {expand : ν → Activity (List ν)}
    (told : ∀ node, Answers host about (expand node) (.ok (callees node))) (entries : List ν)
    (limit : Int) (fuel : Nat)
    : ∃ graph,
        Answers host about (explore none expand fuel 0 (roots entries)) (.ok graph)
        ∧ Answers host about (explore (some (.int limit)) expand fuel 0 (roots entries))
            (.ok (restrict (max limit entries.eraseDups.length).toNat graph)) := by
  have first : (roots entries).nodes.length = entries.eraseDups.length :=
    congrArg List.length (distinct_eq_eraseDups entries)
  have admits
      : Admits limit (max limit entries.eraseDups.length).toNat (roots entries) := by
    refine ⟨by omega, fun short => ?_⟩
    rw [first] at short
    omega
  obtain ⟨graph, whole, limited⟩ :=
    explore_restrict told fuel 0 (roots entries) (.start callees entries) admits
  rw [restrict_of_length_le (Frontier.start callees entries).edgesInside (by omega)] at limited
  exact ⟨graph, whole, limited⟩

/-- A limit gives the graph on the first nodes, as many as the limit says and never fewer than the
distinct entry points: with every edge between two of them, in order and as often as it is there.
-/
theorem build_limited (host : Host) (files : List SourceFile) (synthetic : List SyntheticMethod)
    (entries : List Text) (limit : Int) (session other : Session) (obliging : host.Obliging)
    (typed : ∀ method ∈ Program.methodsOf files, CallsTyped method)
    : ∃ graph after limited later,
        outcome (build host (Program.ofFiles files) synthetic none entries) session
          = (.ok graph, after)
        ∧ outcome (build host (Program.ofFiles files) synthetic (some (.int limit)) entries) other
          = (.ok limited, later)
        ∧ limited.nodes = graph.nodes.take (max limit entries.eraseDups.length).toNat
        ∧ limited.edges
          = graph.edges.filter fun edge =>
              edge.1 ∈ limited.nodes ∧ edge.2 ∈ limited.nodes := by
  obtain ⟨callees, -, answers⟩ := calleesOf_typed host typed synthetic
  obtain ⟨graph, whole, limited⟩ := explore_limited answers entries limit
    (sizeBound (Program.ofFiles files) synthetic entries + 1)
  obtain ⟨after, done⟩ := build_explored obliging whole session
  obtain ⟨later, also⟩ := build_explored obliging limited other
  refine ⟨graph, after, _, later, done, also, rfl, ?_⟩
  exact List.filter_congr fun edge _ => by simp [restrict]

/-- All calls of the looping method have known targets. -/
theorem loopFile_callsTyped : ∀ method ∈ Program.methodsOf [loopFile], CallsTyped method := by
  simp [Program.methodsOf, Program.classesOf, loopFile, CallsTyped, Cfg.stmts]

/-- A limit of one node keeps the calls of a method to itself, and drops those to another one. -/
theorem build_limited_loop
    : Host.willing.Obliging
      ∧ (∀ method ∈ Program.methodsOf [loopFile], CallsTyped method)
      ∧ ∃ graph after limited later,
          outcome (build .willing (Program.ofFiles [loopFile]) [] none ["@a.ets: A.f()"]) .fresh
            = (.ok graph, after)
          ∧ outcome
              (build .willing (Program.ofFiles [loopFile]) [] (some (.int 1)) ["@a.ets: A.f()"])
              .fresh
            = (.ok limited, later)
          ∧ limited.nodes
            = graph.nodes.take
                (max 1 (["@a.ets: A.f()"] : List Text).eraseDups.length : Int).toNat
          ∧ limited.edges
            = graph.edges.filter fun edge =>
                edge.1 ∈ limited.nodes ∧ edge.2 ∈ limited.nodes := by
  exact ⟨Host.willing_denies_nothing, loopFile_callsTyped,
    build_limited .willing [loopFile] [] ["@a.ets: A.f()"] 1 .fresh .fresh
      Host.willing_denies_nothing loopFile_callsTyped⟩

end ArkLifecycle.CallGraph
