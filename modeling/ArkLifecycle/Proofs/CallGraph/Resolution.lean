import ArkLifecycle.Proofs.CallGraph.Reachability

/-! What a call graph depends on.

An exploration asks only for the callees of nodes that it lists. So two programs have the same call
graph when they agree on these, however different the rest of them is; and the bound on the number
of nodes does not show, as long as it is large enough.
-/

namespace ArkLifecycle.CallGraph

open Activity

-----------------------------------------------------------------------------------------
-- Explorations when nobody denies a question
-----------------------------------------------------------------------------------------

section Exploration

variable {ν : Type} [BEq ν]

/-- (exploreIn limit callees fuel next graph) is the exploration when nobody denies a question. -/
def exploreIn (limit : Option Json) (callees : ν → Except Fault (List ν))
    : Nat → Nat → CallGraph ν → Except Fault (CallGraph ν)
  | 0, _, graph => .ok graph
  | fuel + 1, next, graph =>
      match graph.nodes[next]? with
      | none => .ok graph
      | some caller => do
          let called ← callees caller
          let grown ← addCalls limit caller graph called
          exploreIn limit callees fuel (next + 1) grown

/-- An exploration is told truthfully or not at all when the callees of nodes are.
Witness: induction on the fuel.
-/
theorem explore_answers {host : Host} {about : Query → Prop} (limit : Option Json)
    {expand : ν → Activity (List ν)} {callees : ν → Except Fault (List ν)}
    (told : ∀ node, Answers host about (expand node) (callees node)) (fuel next : Nat)
    (graph : CallGraph ν)
    : Answers host about (explore limit expand fuel next graph)
        (exploreIn limit callees fuel next graph) := by
  induction fuel generalizing next graph with
  | zero => exact .pure graph
  | succ fuel ih =>
      unfold explore exploreIn
      cases graph.nodes[next]? with
      | none => exact .pure graph
      | some caller =>
          refine (told caller).bind fun called _ => ?_
          exact (Answers.lift _).bind fun grown _ => ih (next + 1) grown

variable [LawfulBEq ν]

/-- Whatever the limit, the calls of a node add no node twice, and none but callees.
Witness: induction over the callees.
-/
theorem addCalls_nodes {limit : Option Json} {caller : ν} {graph grown : CallGraph ν}
    {callees : List ν} (added : addCalls limit caller graph callees = .ok grown)
    : (graph.nodes.Nodup → grown.nodes.Nodup)
      ∧ ∀ node ∈ grown.nodes, node ∈ graph.nodes ∨ node ∈ callees := by
  induction callees generalizing graph with
  | nil =>
      cases added
      exact ⟨id, fun node member => Or.inl member⟩
  | cons callee rest ih =>
      unfold addCalls at added
      split at added
      · obtain ⟨unique, inside⟩ := ih added
        exact ⟨unique, fun node member =>
          (inside node member).imp_right (List.mem_cons_of_mem callee)⟩
      · next new =>
          have fresh : callee ∉ graph.nodes := by
            simpa using new
          cases full : isFull limit graph.nodes.length with
          | error fault =>
              rw [full] at added
              cases added
          | ok closed =>
              rw [full] at added
              cases closed with
              | true =>
                  obtain ⟨unique, inside⟩ := ih added
                  exact ⟨unique, fun node member =>
                    (inside node member).imp_right (List.mem_cons_of_mem callee)⟩
              | false =>
                  obtain ⟨unique, inside⟩ := ih added
                  refine ⟨fun distinct => unique ?_, fun node member => ?_⟩
                  · refine List.nodup_append.mpr ⟨distinct, by simp, ?_⟩
                    rintro node member other single rfl
                    exact fresh (List.mem_singleton.mp single ▸ member)
                  · rcases inside node member with listed | called
                    · rcases List.mem_append.mp listed with before | new
                      · exact Or.inl before
                      · exact Or.inr (List.mem_singleton.mp new ▸ List.mem_cons_self)
                    · exact Or.inr (List.mem_cons_of_mem callee called)

/-- Two explorations from the same graph give the same, if both are told the same of every node that
they can come to, and the fuel of each exceeds the number of nodes that it could list.
Witness: induction on the fuel. The nodes listed so far are distinct nodes that both know, so
neither runs out of fuel before the last of them is expanded.
-/
theorem exploreIn_alike {limit : Option Json} {callees others : ν → Except Fault (List ν)}
    {met : ν → Prop} {known also : List ν}
    (same : ∀ node, met node → callees node = others node)
    (closed : ∀ node called, met node → callees node = .ok called → ∀ next ∈ called, met next)
    (bounded : ∀ node, met node → node ∈ known ∧ node ∈ also) (fuel more next : Nat)
    {graph : CallGraph ν} (unique : graph.nodes.Nodup)
    (listed : ∀ node ∈ graph.nodes, met node) (enough : known.length < fuel + next)
    (plenty : also.length < more + next)
    : exploreIn limit callees fuel next graph = exploreIn limit others more next graph := by
  induction fuel generalizing more next graph with
  | zero =>
      have small := unique.length_le_of_subset fun node member =>
        (bounded node (listed node member)).1
      have beyond : graph.nodes[next]? = none := List.getElem?_eq_none_iff.mpr (by omega)
      cases more <;> simp [exploreIn, beyond]
  | succ fuel ih =>
      cases found : graph.nodes[next]? with
      | none => cases more <;> simp [exploreIn, found]
      | some caller =>
          have little := unique.length_le_of_subset fun node member =>
            (bounded node (listed node member)).2
          have inside : next < graph.nodes.length := (List.getElem?_eq_some_iff.mp found).1
          have here : met caller := listed caller (List.mem_of_getElem? found)
          cases more with
          | zero => omega
          | succ more =>
              simp only [exploreIn, found, ← same caller here]
              cases told : callees caller with
              | error fault => rfl
              | ok called =>
                  cases added : addCalls limit caller graph called with
                  | error fault => simp [bind, Except.bind, added]
                  | ok grown =>
                      obtain ⟨distinct, among⟩ := addCalls_nodes added
                      have later : ∀ node ∈ grown.nodes, met node := by
                        intro node member
                        rcases among node member with before | new
                        · exact listed node before
                        · exact closed caller called here told node new
                      simp only [bind, Except.bind, added]
                      exact ih more (next + 1) (distinct unique) later (by omega) (by omega)

end Exploration

-----------------------------------------------------------------------------------------
-- Explorations that cannot fail
-----------------------------------------------------------------------------------------

section Bounded

variable {ν : Type} [BEq ν]

/-- Within an integral bound, or none, the calls of a node can always be added.
Witness: induction over the callees.
-/
theorem addCalls_bounded (bound : Option Int) (caller : ν) (graph : CallGraph ν)
    (callees : List ν)
    : ∃ grown, addCalls (bound.map Json.int) caller graph callees = .ok grown := by
  induction callees generalizing graph with
  | nil => exact ⟨graph, rfl⟩
  | cons callee rest ih =>
      have full (count : Nat) : ∃ closed, isFull (bound.map Json.int) count = .ok closed := by
        cases bound <;> exact ⟨_, rfl⟩
      unfold addCalls
      split
      · exact ih _
      · obtain ⟨closed, told⟩ := full graph.nodes.length
        rw [told]
        cases closed with
        | true => exact ih _
        | false => exact ih _

/-- An exploration ends in a graph if every node has callees.
Witness: induction on the fuel.
-/
theorem exploreIn_bounded (bound : Option Int) {callees : ν → Except Fault (List ν)}
    (told : ∀ node, ∃ called, callees node = .ok called) (fuel next : Nat) (graph : CallGraph ν)
    : ∃ whole, exploreIn (bound.map Json.int) callees fuel next graph = .ok whole := by
  induction fuel generalizing next graph with
  | zero => exact ⟨graph, rfl⟩
  | succ fuel ih =>
      unfold exploreIn
      cases graph.nodes[next]? with
      | none => exact ⟨graph, rfl⟩
      | some caller =>
          obtain ⟨called, given⟩ := told caller
          obtain ⟨grown, added⟩ := addCalls_bounded bound caller graph called
          obtain ⟨whole, explored⟩ := ih (next + 1) grown
          exact ⟨whole, by simp only [given, added, explored, bind, Except.bind]⟩

end Bounded

-----------------------------------------------------------------------------------------
-- Call graphs
-----------------------------------------------------------------------------------------

/-- (buildIn program synthetic limit entries) is the call graph when nobody denies a question. -/
def buildIn (program : Program) (synthetic : List SyntheticMethod) (limit : Option Json)
    (entries : List Text)
    : Except Fault CallGraph :=
  exploreIn limit (calleesIn program synthetic) (sizeBound program synthetic entries + 1) 0
    (roots entries)

theorem build_answers (host : Host) (program : Program) (synthetic : List SyntheticMethod)
    (limit : Option Json) (entries : List Text)
    : Answers host (fun _ => True) (build host program synthetic limit entries)
        (buildIn program synthetic limit entries) :=
  (explore_answers limit (calleesOf_answers host program synthetic) _ _ _).span _ _

/-- A program with typed calls has a call graph within every bound. -/
theorem buildIn_typed {files : List SourceFile}
    (typed : ∀ method ∈ Program.methodsOf files, CallsTyped method)
    (synthetic : List SyntheticMethod) (bound : Option Int) (entries : List Text)
    : ∃ graph, buildIn (.ofFiles files) synthetic (bound.map Json.int) entries = .ok graph :=
  exploreIn_bounded bound (calleesIn_typed typed synthetic) _ _ _

/-- (exprsOf files) are the expressions in the bodies of all methods. -/
def exprsOf (files : List SourceFile) : List Expr :=
  (Program.methodsOf files).flatMap fun method =>
    method.cfg.toList.flatMap fun cfg => cfg.stmts.flatMap Stmt.exprs

/-- What the methods of one program and their calls refer to is the same in both programs: the
methods that signatures stand for, and the methods that expressions may call.
-/
structure CallsAlike (whole part : Program) : Prop where
  methods
    : ∀ method ∈ Program.methodsOf part.files,
        whole.method? method.signature = part.method? method.signature
  calls : ∀ expr ∈ exprsOf part.files, resolve whole expr = resolve part expr
  targets
    : ∀ expr ∈ exprsOf part.files,
        ∀ targets,
          resolve part expr = .ok targets
          → ∀ target ∈ targets, whole.method? target = part.method? target

theorem mem_exprsOf {files : List SourceFile} {method : Method} {cfg : Cfg} {expr : Expr}
    (member : method ∈ Program.methodsOf files) (body : method.cfg = some cfg)
    (inside : expr ∈ cfg.stmts.flatMap Stmt.exprs)
    : expr ∈ exprsOf files := by
  refine List.mem_flatMap.mpr ⟨method, member, List.mem_flatMap.mpr ⟨cfg, ?_, inside⟩⟩
  simp [body]

/-- What a body may call is the same in both programs, and so are the methods that it calls.
Witness: induction over the expressions of the body.
-/
theorem CallsAlike.calls_eq {whole part : Program} (alike : CallsAlike whole part)
    {method : Method} (member : method ∈ Program.methodsOf part.files) {cfg : Cfg}
    (body : method.cfg = some cfg)
    : CallGraph.calls whole cfg = CallGraph.calls part cfg
      ∧ ∀ called,
          CallGraph.calls part cfg = .ok called
          → ∀ target ∈ called, whole.method? target = part.method? target := by
  have walk (exprs : List Expr) (inside : ∀ expr ∈ exprs, expr ∈ exprsOf part.files)
      : exprs.mapM (resolve whole) = exprs.mapM (resolve part)
        ∧ ∀ found,
            exprs.mapM (resolve part) = .ok found
            → ∀ target ∈ found.flatten, whole.method? target = part.method? target := by
    induction exprs with
    | nil =>
        refine ⟨rfl, fun found none => ?_⟩
        cases none
        simp
    | cons expr rest ih =>
        have listed : expr ∈ exprsOf part.files := inside expr List.mem_cons_self
        obtain ⟨same, later⟩ := ih fun expr member => inside expr (List.mem_cons_of_mem _ member)
        refine ⟨by rw [List.mapM_cons, List.mapM_cons, alike.calls expr listed, same], ?_⟩
        intro found done
        rw [List.mapM_cons] at done
        cases first : resolve part expr with
        | error fault =>
            rw [first] at done
            cases done
        | ok targets =>
            cases others : rest.mapM (resolve part) with
            | error fault =>
                rw [first, others] at done
                cases done
            | ok more =>
                rw [first, others] at done
                cases done
                intro target member
                rcases List.mem_append.mp (List.flatten_cons ▸ member) with here | there
                · exact alike.targets expr listed targets first target here
                · exact later more others target there
  obtain ⟨same, targets⟩ := walk (cfg.stmts.flatMap Stmt.exprs) fun expr inside =>
    mem_exprsOf member body inside
  refine ⟨by simp only [CallGraph.calls, same], ?_⟩
  intro called done
  simp only [CallGraph.calls] at done
  cases resolved : (cfg.stmts.flatMap Stmt.exprs).mapM (resolve part) with
  | error fault =>
      rw [resolved] at done
      cases done
  | ok found =>
      rw [resolved] at done
      cases done
      exact targets found resolved

/-- A node is the same in both programs if it is a synthetic method, or if both have the same method
for it.
-/
def MeansSame (whole part : Program) (synthetic : List SyntheticMethod) (node : Text) : Prop :=
  (syntheticCalls? synthetic node).isSome ∨ whole.method? node = part.method? node

/-- A node that is the same in both programs calls the same, and what it calls is the same as well.
-/
theorem CallsAlike.calleesIn_eq {files others : List SourceFile}
    (alike : CallsAlike (.ofFiles files) (.ofFiles others)) {synthetic : List SyntheticMethod}
    (entered
      : ∀ method ∈ synthetic, ∀ callee ∈ method.calls,
          (Program.ofFiles files).method? callee = (Program.ofFiles others).method? callee)
    {node : Text} (means : MeansSame (.ofFiles files) (.ofFiles others) synthetic node)
    : calleesIn (.ofFiles files) synthetic node = calleesIn (.ofFiles others) synthetic node
      ∧ ∀ called,
          calleesIn (.ofFiles others) synthetic node = .ok called
          → ∀ callee ∈ called, MeansSame (.ofFiles files) (.ofFiles others) synthetic callee := by
  unfold calleesIn
  cases known : syntheticCalls? synthetic node with
  | some calls =>
      refine ⟨rfl, ?_⟩
      rintro _ ⟨⟩ callee member
      obtain ⟨method, found, same⟩ := Option.map_eq_some_iff.mp known
      have listed : method ∈ synthetic := List.mem_reverse.mp (List.mem_of_find?_eq_some found)
      exact Or.inr (entered method listed callee (same ▸ member))
  | none =>
      have same
          : (Program.ofFiles files).method? node = (Program.ofFiles others).method? node := by
        rcases means with synthetic | same
        · rw [known] at synthetic
          cases synthetic
        · exact same
      dsimp only
      rw [same]
      cases found : (Program.ofFiles others).method? node with
      | none =>
          refine ⟨rfl, ?_⟩
          rintro _ ⟨⟩ callee member
          cases member
      | some method =>
          rw [Option.bind_some]
          have listed : method ∈ Program.methodsOf (Program.ofFiles others).files := by
            rw [Program.method?_ofFiles] at found
            simpa only [Program.ofFiles, Program.methodsOf_settle]
              using List.mem_of_find?_eq_some found
          cases body : method.cfg with
          | none =>
              refine ⟨rfl, ?_⟩
              rintro _ ⟨⟩ callee member
              cases member
          | some cfg =>
              obtain ⟨equal, targets⟩ := alike.calls_eq listed body
              exact ⟨equal, fun called done callee member =>
                Or.inr (targets called done callee member)⟩

/-- Programs in which calls mean the same have the same call graph from entry points that mean the
same, with the same limit.
Witness: all nodes are mentioned in both programs, so that neither bound shows.
-/
theorem CallsAlike.buildIn_eq {files others : List SourceFile}
    (alike : CallsAlike (.ofFiles files) (.ofFiles others)) {synthetic : List SyntheticMethod}
    (entered
      : ∀ method ∈ synthetic, ∀ callee ∈ method.calls,
          (Program.ofFiles files).method? callee = (Program.ofFiles others).method? callee)
    (limit : Option Json) {entries : List Text}
    (starts
      : ∀ entry ∈ entries, MeansSame (.ofFiles files) (.ofFiles others) synthetic entry)
    : buildIn (.ofFiles files) synthetic limit entries
      = buildIn (.ofFiles others) synthetic limit entries := by
  let met (node : Text) : Prop :=
    MeansSame (.ofFiles files) (.ofFiles others) synthetic node
    ∧ node ∈ mentioned (.ofFiles files) synthetic entries
    ∧ node ∈ mentioned (.ofFiles others) synthetic entries
  have entry (node : Text) : node ∈ distinct entries ↔ node ∈ entries := by
    rw [distinct_eq_eraseDups, List.mem_eraseDups]
  have same (node : Text) (here : met node)
      : calleesIn (.ofFiles files) synthetic node = calleesIn (.ofFiles others) synthetic node :=
    (alike.calleesIn_eq entered here.1).1
  have closed (node : Text) (called : List Text) (here : met node)
      (told : calleesIn (.ofFiles files) synthetic node = .ok called) (callee : Text)
      (member : callee ∈ called)
      : met callee := by
    have also := (same node here).symm.trans told
    exact ⟨(alike.calleesIn_eq entered here.1).2 called also callee member,
      calleesIn_mentioned entries told member, calleesIn_mentioned entries also member⟩
  have listed (node : Text) (root : node ∈ distinct entries) : met node := by
    have member := (entry node).mp root
    exact ⟨starts node member, List.mem_append_left _ (List.mem_append_left _ member),
      List.mem_append_left _ (List.mem_append_left _ member)⟩
  refine exploreIn_alike same closed (fun node here => here.2) _ _ 0 (distinct_nodup entries)
    listed ?_ ?_
  · rw [sizeBound_eq_length_mentioned]
    omega
  · rw [sizeBound_eq_length_mentioned]
    omega

end ArkLifecycle.CallGraph
