import ArkLifecycle.CallGraph.Basic
import ArkLifecycle.Proofs.Session.Inquiry
import Mathlib.Order.Bounds.Defs

/-! The exploration of a call graph without a limit reaches exactly the reachable nodes.

Nodes before the index `next` have been expanded and those from it on wait; both stand in one
list. The list never repeats a node, so a bound on the reachable nodes bounds the exploration.
-/

namespace ArkLifecycle.CallGraph

variable {ν : Type} [BEq ν] [LawfulBEq ν]

-----------------------------------------------------------------------------------------
-- Reachable nodes and the graph on them
-----------------------------------------------------------------------------------------

/-- The set has all entry points, and with a node it has the callees of that node. -/
def Closed (callees : ν → List ν) (entries : List ν) (nodes : Set ν) : Prop :=
  (∀ entry ∈ entries, entry ∈ nodes)
  ∧ ∀ caller ∈ nodes, ∀ callee ∈ callees caller, callee ∈ nodes

/-- The node is an entry point, or a reachable node calls it. -/
inductive Reachable (callees : ν → List ν) (entries : List ν) : ν → Prop
  | entry {node} (member : node ∈ entries)
    : Reachable callees entries node
  | call {caller callee} (reached : Reachable callees entries caller)
    (called : callee ∈ callees caller)
    : Reachable callees entries callee

/-- (callEdges callees caller) are the edges from a node, one for each of its calls in order. -/
def callEdges (callees : ν → List ν) (caller : ν) : List (ν × ν) :=
  (callees caller).map fun callee => (caller, callee)

/-- The graph is the one that the calls span from the entry points: its nodes are listed once, the
entry points first, they are the least closed set, and its edges are the calls of the nodes in the
order of the nodes, as often as they are made.
-/
structure IsReachableGraph (callees : ν → List ν) (entries : List ν) (graph : CallGraph ν)
    : Prop where
  unique : graph.nodes.Nodup
  starts : entries.eraseDups <+: graph.nodes
  least : IsLeast {nodes | Closed callees entries nodes} {node | node ∈ graph.nodes}
  edges : graph.edges = graph.nodes.flatMap (callEdges callees)

omit [BEq ν] [LawfulBEq ν] in
/-- Reachable nodes lie in every closed set.
Witness: induction along the calls that lead to the node.
-/
theorem Reachable.mem_closed {callees : ν → List ν} {entries : List ν} {nodes : Set ν} {node : ν}
    (reached : Reachable callees entries node) (closed : Closed callees entries nodes)
    : node ∈ nodes := by
  induction reached with
  | entry member => exact closed.1 _ member
  | call _ called ih => exact closed.2 _ ih _ called

-----------------------------------------------------------------------------------------
-- Entry points and the calls of one node
-----------------------------------------------------------------------------------------

omit [LawfulBEq ν] in
/-- Keeping first occurrences is the library's `eraseDups`.
Witness: both walk the list with the nodes kept so far; induction over the rest of the list.
-/
theorem distinct_eq_eraseDups (nodes : List ν) : distinct nodes = nodes.eraseDups := by
  have walk (rest kept : List ν)
      : (rest.foldl (fun kept node => if kept.contains node then kept else node :: kept)
          kept).reverse
        = List.eraseDupsBy.loop (· == ·) rest kept := by
    induction rest generalizing kept with
    | nil => rfl
    | cons node rest ih =>
        simp only [List.foldl_cons, List.eraseDupsBy.loop]
        rw [ih, List.contains_eq_any_beq]
        cases kept.any (node == ·) <;> rfl
  exact walk nodes []

/-- The distinct entry points are listed once each.
Witness: induction over the list; a node is kept only when it was not kept before.
-/
theorem distinct_nodup (nodes : List ν) : (distinct nodes).Nodup := by
  have walk (rest kept : List ν) (unique : kept.Nodup)
      : (rest.foldl (fun kept node => if kept.contains node then kept else node :: kept)
          kept).Nodup := by
    induction rest generalizing kept with
    | nil => exact unique
    | cons node rest ih =>
        rw [List.foldl_cons]
        by_cases known : node ∈ kept
        · simpa [known] using ih kept unique
        · simpa [known] using ih (node :: kept) (List.nodup_cons.mpr ⟨known, unique⟩)
  exact (List.reverse_perm _).nodup_iff.mpr (walk nodes [] List.nodup_nil)

/-- Without a limit every call gives an edge, and every callee that is new a node.
Witness: induction over the calls; a callee is new when neither the graph nor an earlier call
has it.
-/
theorem addCalls_unlimited (caller : ν) (graph : CallGraph ν) (callees : List ν)
    : ∃ fresh,
        addCalls none caller graph callees
          = .ok {
              nodes := graph.nodes ++ fresh
              edges := graph.edges ++ callees.map fun callee => (caller, callee) }
        ∧ (∀ node ∈ fresh, node ∈ callees)
        ∧ (∀ callee ∈ callees, callee ∈ graph.nodes ++ fresh)
        ∧ (graph.nodes.Nodup → (graph.nodes ++ fresh).Nodup) := by
  induction callees generalizing graph with
  | nil => exact ⟨[], by simp [addCalls], by simp, by simp, by simp⟩
  | cons callee rest ih =>
      by_cases known : callee ∈ graph.nodes
      · obtain ⟨fresh, added, called, covered, unique⟩ :=
          ih { graph with edges := graph.edges ++ [(caller, callee)] }
        refine ⟨fresh, ?_, ?_, ?_, unique⟩
        · simp only [addCalls, List.contains_iff_mem.mpr known, if_true, added]
          simp
        · exact fun node member => List.mem_cons_of_mem callee (called node member)
        · intro node member
          rcases List.mem_cons.mp member with same | later
          · subst same
            exact List.mem_append_left _ known
          · exact covered node later
      · obtain ⟨fresh, added, called, covered, unique⟩ :=
          ih ⟨graph.nodes ++ [callee], graph.edges ++ [(caller, callee)]⟩
        refine ⟨callee :: fresh, ?_, ?_, ?_, ?_⟩
        · simp only [addCalls, List.contains_eq_mem, known, decide_false, isFull]
          exact added.trans (by simp)
        · intro node member
          rcases List.mem_cons.mp member with same | later
          · simp [same]
          · exact List.mem_cons_of_mem callee (called node later)
        · intro node member
          rcases List.mem_cons.mp member with same | later
          · simp [same]
          · simpa using covered node later
        · intro before
          have extended : (graph.nodes ++ [callee]).Nodup := by
            refine List.nodup_append.mpr ⟨before, by simp, ?_⟩
            intro node member other single same
            rw [List.mem_singleton.mp single] at same
            exact known (same ▸ member)
          simpa using unique extended

-----------------------------------------------------------------------------------------
-- The exploration
-----------------------------------------------------------------------------------------

/-- Where an exploration stands: the nodes before `next` are expanded, so that the graph has their
callees and, in order, exactly the edges of their calls; the other nodes wait.
-/
structure Frontier (callees : ν → List ν) (entries : List ν) (next : Nat) (graph : CallGraph ν)
    : Prop where
  unique : graph.nodes.Nodup
  starts : distinct entries <+: graph.nodes
  within : next ≤ graph.nodes.length
  reached : ∀ node ∈ graph.nodes, Reachable callees entries node
  expanded : ∀ caller ∈ graph.nodes.take next, ∀ callee ∈ callees caller, callee ∈ graph.nodes
  edges : graph.edges = (graph.nodes.take next).flatMap (callEdges callees)

/-- Before anything is expanded, the nodes are the distinct entry points. -/
theorem Frontier.start (callees : ν → List ν) (entries : List ν)
    : Frontier callees entries 0 (roots entries) := by
  have member (node : ν) : node ∈ distinct entries ↔ node ∈ entries := by
    rw [distinct_eq_eraseDups, List.mem_eraseDups]
  refine ⟨distinct_nodup entries, List.prefix_rfl, Nat.zero_le _, ?_, by simp, by simp [roots]⟩
  exact fun node listed => .entry ((member node).mp listed)

/-- Expanding the first waiting node moves the frontier by one.
Witness: new nodes are added behind, so the nodes expanded so far stay the same ones.
-/
theorem Frontier.expand {callees : ν → List ν} {entries : List ν} {next : Nat}
    {graph : CallGraph ν} {caller : ν}
    (frontier : Frontier callees entries next graph) (found : graph.nodes[next]? = some caller)
    : ∃ grown,
        addCalls none caller graph (callees caller) = .ok grown
        ∧ Frontier callees entries (next + 1) grown := by
  obtain ⟨fresh, added, called, covered, unique⟩ :=
    addCalls_unlimited caller graph (callees caller)
  obtain ⟨inside, same⟩ := List.getElem?_eq_some_iff.mp found
  have taken : (graph.nodes ++ fresh).take (next + 1) = graph.nodes.take next ++ [caller] := by
    rw [List.take_append_of_le_length inside, List.take_succ_eq_append_getElem inside, same]
  have listed : caller ∈ graph.nodes := List.mem_of_getElem? found
  refine ⟨_, added, unique frontier.unique, ?_, ?_, ?_, ?_, ?_⟩
  · exact frontier.starts.trans (List.prefix_append _ _)
  · simp only [List.length_append]
    omega
  · intro node member
    rcases List.mem_append.mp member with old | new
    · exact frontier.reached node old
    · exact .call (frontier.reached caller listed) (called node new)
  · intro node member callee call
    rw [taken] at member
    rcases List.mem_append.mp member with old | last
    · exact List.mem_append_left _ (frontier.expanded node old callee call)
    · rw [List.mem_singleton.mp last] at call
      exact covered callee call
  · rw [taken, List.flatMap_append, ← frontier.edges]
    simp [callEdges]

/-- Once every node is expanded, the graph is the reachable one.
Witness: the nodes are closed because all of them are expanded, and least because each of them
is reachable.
-/
theorem Frontier.complete {callees : ν → List ν} {entries : List ν} {graph : CallGraph ν}
    (frontier : Frontier callees entries graph.nodes.length graph)
    : IsReachableGraph callees entries graph := by
  obtain ⟨unique, starts, -, reached, expanded, edges⟩ := frontier
  rw [List.take_length] at expanded edges
  rw [distinct_eq_eraseDups] at starts
  refine ⟨unique, starts, ⟨⟨?_, expanded⟩, ?_⟩, edges⟩
  · exact fun entry member => starts.subset (List.mem_eraseDups.mpr member)
  · exact fun nodes closed node member => (reached node member).mem_closed closed

/-- An exploration whose fuel exceeds the number of reachable nodes expands all of them.
Witness: induction on the fuel. Every round expands one more of the listed nodes; these are
distinct and reachable, so there are no more of them than the reachable ones.
-/
theorem explore_unlimited {host : Host} {about : Query → Prop} {callees : ν → List ν}
    {expand : ν → Activity (List ν)} {entries known : List ν}
    (told : ∀ node, Activity.Answers host about (expand node) (.ok (callees node)))
    (bounded : ∀ node, Reachable callees entries node → node ∈ known)
    (fuel next : Nat) (graph : CallGraph ν)
    (frontier : Frontier callees entries next graph) (enough : known.length < fuel + next)
    : ∃ final,
        Activity.Answers host about (explore none expand fuel next graph) (.ok final)
        ∧ IsReachableGraph callees entries final := by
  induction fuel generalizing next graph with
  | zero =>
      have small := frontier.unique.length_le_of_subset fun node member =>
        bounded node (frontier.reached node member)
      have within := frontier.within
      omega
  | succ fuel ih =>
      cases found : graph.nodes[next]? with
      | none =>
          have all : next = graph.nodes.length :=
            Nat.le_antisymm frontier.within (List.getElem?_eq_none_iff.mp found)
          refine ⟨graph, ?_, (all ▸ frontier).complete⟩
          simp only [explore, found]
          exact .pure graph
      | some caller =>
          obtain ⟨grown, added, moved⟩ := frontier.expand found
          obtain ⟨final, rest, reachable⟩ := ih (next + 1) grown moved (by omega)
          have calls : Activity.Answers host about
              (liftM (addCalls none caller graph (callees caller))) (.ok grown) := by
            rw [added]
            exact .lift _
          refine ⟨final, ?_, reachable⟩
          simp only [explore, found]
          exact (told caller).bind_ok (calls.bind_ok rest)

end ArkLifecycle.CallGraph
