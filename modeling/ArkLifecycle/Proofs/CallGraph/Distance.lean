import ArkLifecycle.Proofs.CallGraph.Limit
import Mathlib.Order.Lattice.Nat

/-! Call graphs list their nodes by distance from the entry points.

While a graph is explored, its nodes lie at most one call farther than the node that is expanded
next. The callees that this one brings are therefore the farthest so far, and come last.
-/

namespace ArkLifecycle.CallGraph

open Activity

variable {ν : Type} [BEq ν] [LawfulBEq ν]

-----------------------------------------------------------------------------------------
-- Distances
-----------------------------------------------------------------------------------------

/-- So many calls in a row lead from an entry point to the node. -/
inductive ReachedIn (callees : ν → List ν) (entries : List ν) : Nat → ν → Prop
  | entry {node} (member : node ∈ entries)
    : ReachedIn callees entries 0 node
  | call {steps caller callee} (reached : ReachedIn callees entries steps caller)
    (called : callee ∈ callees caller)
    : ReachedIn callees entries (steps + 1) callee

/-- (distance callees entries node) is the least number of calls that lead to a node. -/
noncomputable def distance (callees : ν → List ν) (entries : List ν) (node : ν) : Nat :=
  sInf {steps | ReachedIn callees entries steps node}

variable {callees : ν → List ν} {entries : List ν}

omit [BEq ν] [LawfulBEq ν] in
/-- Some number of calls leads to a reachable node. Witness: induction along the calls. -/
theorem Reachable.reachedIn {node : ν} (reached : Reachable callees entries node)
    : ∃ steps, ReachedIn callees entries steps node := by
  induction reached with
  | entry member => exact ⟨0, .entry member⟩
  | call _ called ih =>
      obtain ⟨steps, before⟩ := ih
      exact ⟨steps + 1, before.call called⟩

omit [BEq ν] [LawfulBEq ν] in
/-- The distance of a reachable node is the least number of calls that lead to it. -/
theorem Reachable.isLeast_distance {node : ν} (reached : Reachable callees entries node)
    : IsLeast {steps | ReachedIn callees entries steps node} (distance callees entries node) :=
  ⟨Nat.sInf_mem reached.reachedIn, fun _ => Nat.sInf_le⟩

omit [BEq ν] [LawfulBEq ν] in
/-- Entry points are at no distance. -/
theorem distance_entry {node : ν} (member : node ∈ entries) : distance callees entries node = 0 :=
  Nat.le_zero.mp (Nat.sInf_le (.entry member))

omit [BEq ν] [LawfulBEq ν] in
/-- A callee is at most one call farther than its caller. -/
theorem distance_call_le {caller callee : ν} (reached : Reachable callees entries caller)
    (called : callee ∈ callees caller)
    : distance callees entries callee ≤ distance callees entries caller + 1 :=
  Nat.sInf_le (reached.isLeast_distance.1.call called)

-----------------------------------------------------------------------------------------
-- The exploration keeps the order of distances
-----------------------------------------------------------------------------------------

/-- The nodes are listed by distance, and none is more than one call farther than the node that is
expanded next.
-/
structure Layered (callees : ν → List ν) (entries : List ν) (next : Nat) (graph : CallGraph ν)
    : Prop where
  sorted
    : graph.nodes.Pairwise fun near far =>
        distance callees entries near ≤ distance callees entries far
  within
    : ∀ caller,
        graph.nodes[next]? = some caller
        → ∀ node ∈ graph.nodes,
            distance callees entries node ≤ distance callees entries caller + 1

/-- Entry points are all at the same distance. -/
theorem Layered.start (callees : ν → List ν) (entries : List ν)
    : Layered callees entries 0 (roots entries) := by
  have zero (node : ν) (listed : node ∈ (roots entries).nodes)
      : distance callees entries node = 0 := by
    rw [roots, distinct_eq_eraseDups, List.mem_eraseDups] at listed
    exact distance_entry listed
  constructor
  · refine List.pairwise_of_forall_mem_list fun near here far _ => ?_
    rw [zero near here]
    exact Nat.zero_le _
  · intro caller _ node listed
    rw [zero node listed]
    exact Nat.zero_le _

omit [BEq ν] [LawfulBEq ν] in
/-- The nodes that wait are not closer than the first of them. -/
theorem Layered.waiting {next : Nat} {graph : CallGraph ν} {caller node : ν}
    (layered : Layered callees entries next graph) (found : graph.nodes[next]? = some caller)
    (listed : node ∈ graph.nodes)
    : node ∈ graph.nodes.take next
      ∨ distance callees entries caller ≤ distance callees entries node := by
  obtain ⟨place, inside, here⟩ := List.mem_iff_getElem.mp listed
  obtain ⟨begun, there⟩ := List.getElem?_eq_some_iff.mp found
  rcases Nat.lt_trichotomy place next with before | same | after
  · exact .inl (List.mem_take_iff_getElem.mpr ⟨place, by omega, here⟩)
  · subst same
    rw [← here, ← there]
    exact .inr (Nat.le_refl _)
  · rw [← here, ← there]
    exact .inr (List.pairwise_iff_getElem.mp layered.sorted next place begun inside after)

/-- Whatever is not expanded yet is at least as far as the node that is expanded next.
Witness: induction along the calls. The first node on the way that is not expanded is an entry point
or called by an expanded node, so that it waits in the graph.
-/
theorem Layered.beyond {next : Nat} {graph : CallGraph ν} {caller : ν}
    (layered : Layered callees entries next graph)
    (frontier : Frontier callees entries next graph) (found : graph.nodes[next]? = some caller)
    {steps : Nat} {node : ν} (reached : ReachedIn callees entries steps node)
    : node ∈ graph.nodes.take next ∨ distance callees entries caller ≤ steps := by
  have waiting {steps : Nat} {node : ν} (reached : ReachedIn callees entries steps node)
      (listed : node ∈ graph.nodes)
      : node ∈ graph.nodes.take next ∨ distance callees entries caller ≤ steps :=
    (layered.waiting found listed).imp_right fun far => far.trans (Nat.sInf_le reached)
  induction reached with
  | @entry node member =>
      refine waiting (.entry member) (frontier.starts.subset ?_)
      rwa [distinct_eq_eraseDups, List.mem_eraseDups]
  | @call steps middle callee before called ih =>
      rcases ih with expanded | far
      · exact waiting (before.call called) (frontier.expanded middle expanded callee called)
      · exact .inr (Nat.le_succ_of_le far)

/-- Nodes that are new to the graph when a node is expanded are one call farther than this one. -/
theorem Layered.distance_new {next : Nat} {graph : CallGraph ν} {caller callee : ν}
    (layered : Layered callees entries next graph)
    (frontier : Frontier callees entries next graph) (found : graph.nodes[next]? = some caller)
    (called : callee ∈ callees caller) (new : callee ∉ graph.nodes)
    : distance callees entries callee = distance callees entries caller + 1 := by
  have reached := frontier.reached caller (List.mem_of_getElem? found)
  refine Nat.le_antisymm (distance_call_le reached called) ?_
  have least := (reached.call called).isLeast_distance.1
  cases way : distance callees entries callee with
  | zero =>
      rw [way] at least
      cases least with
      | entry member =>
          refine absurd (frontier.starts.subset ?_) new
          rwa [distinct_eq_eraseDups, List.mem_eraseDups]
  | succ steps =>
      rw [way] at least
      cases least with
      | @call _ middle _ before last =>
          rcases layered.beyond frontier found before with expanded | far
          · exact absurd (frontier.expanded middle expanded callee last) new
          · exact Nat.succ_le_succ far

/-- Expanding the first waiting node keeps the order of distances.
Witness: its new callees stand behind nodes that are no farther than they are.
-/
theorem Layered.expand {next : Nat} {graph grown : CallGraph ν} {caller : ν}
    (layered : Layered callees entries next graph)
    (frontier : Frontier callees entries next graph) (found : graph.nodes[next]? = some caller)
    (added : addCalls none caller graph (callees caller) = .ok grown)
    : Layered callees entries (next + 1) grown := by
  obtain ⟨fresh, same, called, -, unique⟩ := addCalls_unlimited caller graph (callees caller)
  cases same.symm.trans added
  have new (node : ν) (member : node ∈ fresh)
      : distance callees entries node = distance callees entries caller + 1 :=
    layered.distance_new frontier found (called node member) fun old =>
      (List.nodup_append.mp (unique frontier.unique)).2.2 node old node member rfl
  have near (node : ν) (listed : node ∈ graph.nodes ++ fresh)
      : distance callees entries node ≤ distance callees entries caller + 1 := by
    rcases List.mem_append.mp listed with old | member
    · exact layered.within caller found node old
    · exact (new node member).le
  have sorted : (graph.nodes ++ fresh).Pairwise fun near far =>
      distance callees entries near ≤ distance callees entries far := by
    refine List.pairwise_append.mpr ⟨layered.sorted, ?_, ?_⟩
    · refine List.pairwise_of_forall_mem_list fun first here second there => ?_
      rw [new first here, new second there]
    · intro node old other member
      rw [new other member]
      exact layered.within caller found node old
  refine ⟨sorted, fun following there node listed => (near node listed).trans ?_⟩
  obtain ⟨inside, here⟩ := List.getElem?_eq_some_iff.mp found
  obtain ⟨begun, next⟩ := List.getElem?_eq_some_iff.mp there
  have forward := List.pairwise_iff_getElem.mp sorted _ _
    (Nat.lt_of_succ_lt begun) begun (Nat.lt_succ_self _)
  rw [next, List.getElem_append_left inside, here] at forward
  exact Nat.succ_le_succ forward

/-- An exploration lists the nodes by distance. Witness: induction on the fuel. -/
theorem explore_sorted {host : Host} {about : Query → Prop} {expand : ν → Activity (List ν)}
    (told : ∀ node, Answers host about (expand node) (.ok (callees node))) (fuel next : Nat)
    (graph : CallGraph ν) (frontier : Frontier callees entries next graph)
    (layered : Layered callees entries next graph)
    : ∃ final,
        Answers host about (explore none expand fuel next graph) (.ok final)
        ∧ final.nodes.Pairwise fun near far =>
            distance callees entries near ≤ distance callees entries far := by
  induction fuel generalizing next graph with
  | zero => exact ⟨graph, .pure graph, layered.sorted⟩
  | succ fuel ih =>
      cases found : graph.nodes[next]? with
      | none =>
          simp only [explore, found]
          exact ⟨graph, .pure graph, layered.sorted⟩
      | some caller =>
          obtain ⟨grown, added, moved⟩ := frontier.expand found
          obtain ⟨final, rest, sorted⟩ :=
            ih (next + 1) grown moved (layered.expand frontier found added)
          refine ⟨final, ?_, sorted⟩
          simp only [explore, found]
          refine (told caller).bind_ok (Answers.bind_ok ?_ rest)
          rw [added]
          exact .lift _

-----------------------------------------------------------------------------------------
-- The call graph of a program
-----------------------------------------------------------------------------------------

omit [BEq ν] [LawfulBEq ν] in
/-- A beginning of a list that is sorted holds nothing greater than what it leaves out. -/
theorem mem_take_le_of_pairwise {nodes : List ν} {measure : ν → Nat} (count : Nat)
    (sorted : nodes.Pairwise fun near far => measure near ≤ measure far) {kept left : ν}
    (taken : kept ∈ nodes.take count) (listed : left ∈ nodes) (dropped : left ∉ nodes.take count)
    : measure kept ≤ measure left := by
  rw [← List.take_append_drop count nodes] at sorted listed
  have behind : left ∈ nodes.drop count :=
    (List.mem_append.mp listed).resolve_left dropped
  exact (List.pairwise_append.mp sorted).2.2 kept taken left behind

/-- The call graph of a program lists its nodes by their distance from the entry points, so that a
limit on the nodes keeps those that are closest to them.
-/
theorem build_listsByDistance (host : Host) (files : List SourceFile)
    (synthetic : List SyntheticMethod) (entries : List Text) (session : Session)
    (obliging : host.Obliging)
    (typed : ∀ method ∈ Program.methodsOf files, CallsTyped method)
    : ∃ callees : Text → List Text,
        (∀ node session,
          (outcome (calleesOf host (Program.ofFiles files) synthetic node) session).1
            = .ok (callees node))
        ∧ ∃ graph after,
            outcome (build host (Program.ofFiles files) synthetic none entries) session
              = (.ok graph, after)
            ∧ (∀ node ∈ graph.nodes,
                IsLeast {steps | ReachedIn callees entries steps node}
                  (distance callees entries node))
            ∧ (graph.nodes.Pairwise fun near far =>
                distance callees entries near ≤ distance callees entries far)
            ∧ ∀ (limit : Int) (other : Session),
                ∃ limited later,
                  outcome
                      (build host (Program.ofFiles files) synthetic (some (.int limit)) entries)
                      other
                    = (.ok limited, later)
                  ∧ ∀ kept ∈ limited.nodes,
                      ∀ left, Reachable callees entries left → left ∉ limited.nodes
                        → distance callees entries kept ≤ distance callees entries left := by
  obtain ⟨callees, told, answers⟩ := calleesOf_typed host typed synthetic
  let fuel := sizeBound (Program.ofFiles files) synthetic entries + 1
  obtain ⟨graph, explored, reachable⟩ := explore_unlimited answers
    (fun node reached => reached.mentioned told) fuel 0 (roots entries) (.start callees entries)
    (by rw [← sizeBound_eq_length_mentioned]; omega)
  have unique {found : CallGraph}
      (also
        : Answers host (fun _ => True)
            (explore none (calleesOf host (Program.ofFiles files) synthetic) fuel 0
              (roots entries))
            (.ok found))
      : found = graph := by
    obtain ⟨after, -, done, -⟩ := explored.obliged obliging session
    obtain ⟨later, -, again, -⟩ := also.obliged obliging session
    exact (Except.ok.inj (congrArg Prod.fst (done.symm.trans again))).symm
  obtain ⟨found, ordered, sorted⟩ := explore_sorted answers fuel 0 (roots entries)
    (.start callees entries) (.start callees entries)
  rw [unique ordered] at sorted
  obtain ⟨after, done⟩ := build_explored obliging explored session
  refine ⟨callees, ?_, graph, after, done, ?_, sorted, ?_⟩
  · intro node session
    obtain ⟨after, -, given, -⟩ := (answers node).obliged obliging session
    rw [given]
  · intro node listed
    have closed : Closed callees entries {node | Reachable callees entries node} :=
      ⟨fun _ member => .entry member, fun _ reached _ called => .call reached called⟩
    exact (reachable.least.2 closed listed).isLeast_distance
  · intro limit other
    obtain ⟨found, whole, limited⟩ := explore_limited answers entries limit fuel
    rw [unique whole] at limited
    obtain ⟨later, also⟩ := build_explored obliging limited other
    refine ⟨_, later, also, fun kept taken left reached dropped => ?_⟩
    exact mem_take_le_of_pairwise _ sorted taken (reached.mem_closed reachable.least.1) dropped

/-- A method that calls itself and another one stands before that one. -/
theorem build_listsByDistance_loop
    : Host.willing.Obliging
      ∧ (∀ method ∈ Program.methodsOf [loopFile], CallsTyped method)
      ∧ ∃ callees : Text → List Text,
          (∀ node session,
            (outcome (calleesOf .willing (Program.ofFiles [loopFile]) [] node) session).1
              = .ok (callees node))
          ∧ ∃ graph after,
              outcome
                  (build .willing (Program.ofFiles [loopFile]) [] none ["@a.ets: A.f()"]) .fresh
                = (.ok graph, after)
              ∧ (∀ node ∈ graph.nodes,
                  IsLeast {steps | ReachedIn callees ["@a.ets: A.f()"] steps node}
                    (distance callees ["@a.ets: A.f()"] node))
              ∧ (graph.nodes.Pairwise fun near far =>
                  distance callees ["@a.ets: A.f()"] near
                    ≤ distance callees ["@a.ets: A.f()"] far)
              ∧ ∀ (limit : Int) (other : Session),
                  ∃ limited later,
                    outcome
                        (build .willing (Program.ofFiles [loopFile]) [] (some (.int limit))
                          ["@a.ets: A.f()"])
                        other
                      = (.ok limited, later)
                    ∧ ∀ kept ∈ limited.nodes,
                        ∀ left, Reachable callees ["@a.ets: A.f()"] left → left ∉ limited.nodes
                          → distance callees ["@a.ets: A.f()"] kept
                            ≤ distance callees ["@a.ets: A.f()"] left := by
  exact ⟨Host.willing_denies_nothing, loopFile_callsTyped,
    build_listsByDistance .willing [loopFile] [] _ .fresh Host.willing_denies_nothing
      loopFile_callsTyped⟩

end ArkLifecycle.CallGraph
