import ArkLifecycle.Proofs.CallGraph.Roots

/-! Resolution of calls gives up only where the program has nothing to offer.

A call with an unknown target goes to all methods that bear the name in it. So an edge that leads
out of the program goes to a name that no method bears, and what is no method calls nothing.
-/

namespace ArkLifecycle

open Activity

/-- The target of the expression is its callee, or else the signature embedded in its text. -/
def Expr.Targets (expr : Expr) (target : Text) : Prop :=
  expr.callee = .signature target
  ∨ expr.callee = .unresolved ∧ Signature.embedded? expr.text = some target

namespace CallGraph

-----------------------------------------------------------------------------------------
-- Signatures of the program and of others
-----------------------------------------------------------------------------------------

/-- The signature is that of a method of the program. -/
def Declared (files : List SourceFile) (signature : Text) : Prop :=
  ∃ method ∈ Program.methodsOf files, method.signature = signature

/-- The signature is that of a synthetic method. -/
def Synthesized (synthetic : List SyntheticMethod) (signature : Text) : Prop :=
  ∃ method ∈ synthetic, method.signature = signature

/-- No method of the program bears the name in the signature. -/
def Foreign (files : List SourceFile) (signature : Text) : Prop :=
  ∀ method ∈ Program.methodsOf files, method.name ≠ Signature.methodName signature

variable {files : List SourceFile} {synthetic : List SyntheticMethod}

/-- The methods of the program are found, and nothing else. -/
theorem isSome_method?_iff (files : List SourceFile) (signature : Text)
    : ((Program.ofFiles files).method? signature).isSome = true ↔ Declared files signature := by
  simp [Program.method?_ofFiles, Declared]

theorem syntheticCalls?_eq_none_iff (synthetic : List SyntheticMethod) (signature : Text)
    : syntheticCalls? synthetic signature = none ↔ ¬ Synthesized synthetic signature := by
  simp [syntheticCalls?, Synthesized]

-----------------------------------------------------------------------------------------
-- What a call is resolved to
-----------------------------------------------------------------------------------------

/-- A method of the program is the only target of a call to it. -/
theorem resolveTarget_declared {target : Text} (declared : Declared files target)
    : resolveTarget (.ofFiles files) target = [target] :=
  if_pos ((isSome_method?_iff files target).mpr declared)

/-- A call to any other target goes to the methods of its name, and to itself without any. -/
theorem mem_resolveTarget_iff {target : Text} (undeclared : ¬ Declared files target)
    (callee : Text)
    : callee ∈ resolveTarget (.ofFiles files) target
      ↔ (∃ method ∈ Program.methodsOf files,
          method.name = Signature.methodName target ∧ method.signature = callee)
        ∨ Foreign files target ∧ callee = target := by
  have missing : ¬ ((Program.ofFiles files).method? target).isSome = true :=
    fun found => undeclared ((isSome_method?_iff files target).mp found)
  have named (method : Method)
      : method ∈ (Program.ofFiles files).methodsNamed (Signature.methodName target)
        ↔ method ∈ Program.methodsOf files ∧ method.name = Signature.methodName target := by
    simp [Program.methodsNamed_ofFiles]
  rw [resolveTarget, if_neg missing]
  split
  · next none =>
      have foreign : Foreign files target := by
        intro method member bears
        have found := (named method).mpr ⟨member, bears⟩
        rw [none] at found
        cases found
      constructor
      · exact fun same => Or.inr ⟨foreign, List.mem_singleton.mp same⟩
      · rintro (⟨method, member, bears, -⟩ | ⟨-, same⟩)
        · exact absurd bears (foreign method member)
        · exact List.mem_singleton.mpr same
  · next methods some =>
      rw [List.mem_map]
      constructor
      · rintro ⟨method, found, same⟩
        obtain ⟨member, bears⟩ := (named method).mp found
        exact Or.inl ⟨method, member, bears, same⟩
      · rintro (⟨method, member, bears, same⟩ | ⟨foreign, -⟩)
        · exact ⟨method, (named method).mpr ⟨member, bears⟩, same⟩
        · obtain ⟨method, found⟩ := List.exists_mem_of_ne_nil _ some
          obtain ⟨member, bears⟩ := (named method).mp found
          exact absurd bears (foreign method member)

/-- A call to a known target is resolved by that target alone. -/
theorem resolve_targets (program : Program) {expr : Expr} {target : Text}
    (targets : expr.Targets target)
    : resolve program expr = .ok (resolveTarget program target) := by
  unfold resolve
  rcases targets with callee | ⟨callee, embedded⟩
  · rw [callee]
  · rw [callee]
    dsimp only
    rw [embedded]

/-- A call is resolved to methods of the program, or to a target that is foreign to it.
Witness: a call without a target is resolved to methods only.
-/
theorem declared_or_foreign_of_resolve {expr : Expr} {targets : List Text}
    (resolved : resolve (.ofFiles files) expr = .ok targets) {callee : Text}
    (member : callee ∈ targets)
    : Declared files callee ∨ Foreign files callee := by
  have known {target : Text} (here : callee ∈ resolveTarget (.ofFiles files) target)
      : Declared files callee ∨ Foreign files callee := by
    by_cases declared : Declared files target
    · rw [resolveTarget_declared declared] at here
      exact Or.inl (List.mem_singleton.mp here ▸ declared)
    · rcases (mem_resolveTarget_iff declared callee).mp here with
        ⟨method, listed, -, same⟩ | ⟨foreign, same⟩
      · exact Or.inl ⟨method, listed, same⟩
      · exact Or.inr (same ▸ foreign)
  unfold resolve at resolved
  split at resolved
  · cases resolved
    exact known member
  · split at resolved
    · cases resolved
      exact known member
    · cases resolved
      unfold resolveText at member
      split at member
      · split at member
        · rw [Program.methodsNamed_ofFiles] at member
          obtain ⟨method, named, same⟩ := List.mem_map.mp member
          exact Or.inl ⟨method, List.mem_of_mem_filter named, same⟩
        · cases member
      · cases member
  · cases resolved
  · cases resolved

-----------------------------------------------------------------------------------------
-- What a node calls
-----------------------------------------------------------------------------------------

/-- What is neither synthetic nor a method of the program calls nothing. -/
theorem calleesIn_undeclared {node : Text} (plain : ¬ Synthesized synthetic node)
    (undeclared : ¬ Declared files node)
    : calleesIn (.ofFiles files) synthetic node = .ok [] := by
  have missing : (Program.ofFiles files).method? node = none := by
    rw [← Option.not_isSome_iff_eq_none, isSome_method?_iff]
    exact undeclared
  rw [calleesIn, (syntheticCalls?_eq_none_iff synthetic node).mpr plain, missing]
  rfl

/-- A node with a body calls what the body calls. -/
theorem calleesIn_body {node : Text} (plain : ¬ Synthesized synthetic node) {method : Method}
    (found
      : ((Program.methodsOf files).find? fun method => method.signature == node) = some method)
    {cfg : Cfg} (body : method.cfg = some cfg)
    : calleesIn (.ofFiles files) synthetic node = calls (.ofFiles files) cfg := by
  rw [calleesIn, (syntheticCalls?_eq_none_iff synthetic node).mpr plain, Program.method?_ofFiles,
    found, Option.bind_some, body]

/-- What a node that is not synthetic calls is a method of the program, or foreign to it. -/
theorem declared_or_foreign_of_calleesIn {node : Text} (plain : ¬ Synthesized synthetic node)
    {called : List Text} (done : calleesIn (.ofFiles files) synthetic node = .ok called)
    {callee : Text} (member : callee ∈ called)
    : Declared files callee ∨ Foreign files callee := by
  rw [calleesIn, (syntheticCalls?_eq_none_iff synthetic node).mpr plain] at done
  dsimp only at done
  split at done
  · cases done
    cases member
  · obtain ⟨expr, -, targets, resolved, here⟩ := (mem_calls_iff done).mp member
    exact declared_or_foreign_of_resolve resolved here

-----------------------------------------------------------------------------------------
-- The edges of an exploration
-----------------------------------------------------------------------------------------

section Exploration

variable {ν : Type} [BEq ν]

/-- Whatever the limit, the edges that a node adds are calls of it.
Witness: induction over the callees.
-/
theorem addCalls_edges {limit : Option Json} {caller : ν} {graph grown : CallGraph ν}
    {callees : List ν} (added : addCalls limit caller graph callees = .ok grown)
    : ∀ edge ∈ grown.edges, edge ∈ graph.edges ∨ edge ∈ callees.map fun callee => (caller, callee)
    := by
  induction callees generalizing graph with
  | nil =>
      cases added
      exact fun edge => Or.inl
  | cons callee rest ih =>
      have called {edge : ν × ν} (later : edge ∈ rest.map fun callee => (caller, callee))
          : edge ∈ (callee :: rest).map fun callee => (caller, callee) :=
        List.mem_cons_of_mem _ later
      have grows {nodes : List ν}
          (added
            : addCalls limit caller ⟨nodes, graph.edges ++ [(caller, callee)]⟩ rest = .ok grown)
          : ∀ edge ∈ grown.edges,
              edge ∈ graph.edges ∨ edge ∈ (callee :: rest).map fun callee => (caller, callee) := by
        intro edge member
        rcases ih added edge member with before | later
        · rcases List.mem_append.mp before with old | new
          · exact Or.inl old
          · exact Or.inr (List.mem_singleton.mp new ▸ List.mem_cons_self)
        · exact Or.inr (called later)
      unfold addCalls at added
      split at added
      · exact grows added
      · obtain ⟨full, -, added⟩ := bind_eq_ok added
        cases full with
        | true => exact fun edge member => (ih added edge member).imp_right called
        | false => exact grows added

/-- Whatever the limit, the edges of an exploration are calls of their callers.
Witness: induction on the fuel.
-/
theorem exploreIn_edges {limit : Option Json} {callees : ν → Except Fault (List ν)}
    (fuel next : Nat) {graph final : CallGraph ν}
    (explored : exploreIn limit callees fuel next graph = .ok final)
    (calls : ∀ edge ∈ graph.edges, ∃ called, callees edge.1 = .ok called ∧ edge.2 ∈ called)
    : ∀ edge ∈ final.edges, ∃ called, callees edge.1 = .ok called ∧ edge.2 ∈ called := by
  induction fuel generalizing next graph with
  | zero =>
      cases explored
      exact calls
  | succ fuel ih =>
      unfold exploreIn at explored
      split at explored
      · cases explored
        exact calls
      · next caller found =>
          obtain ⟨called, told, explored⟩ := bind_eq_ok explored
          obtain ⟨grown, added, explored⟩ := bind_eq_ok explored
          refine ih (next + 1) explored fun edge member => ?_
          rcases addCalls_edges added edge member with old | new
          · exact calls edge old
          · obtain ⟨callee, here, rfl⟩ := List.mem_map.mp new
            exact ⟨called, told, here⟩

end Exploration

-----------------------------------------------------------------------------------------
-- The call graph of a program
-----------------------------------------------------------------------------------------

/-- Nodes that are no methods are leaves, and an edge from a method of the program leaves the
program only for a name that no method bears.
-/
structure StaysInside (files : List SourceFile) (synthetic : List SyntheticMethod)
    (graph : CallGraph)
    : Prop where
  leaves
    : ∀ node ∈ graph.nodes,
        ¬ Synthesized synthetic node
        → ¬ Declared files node
        → ∀ edge ∈ graph.edges, edge.1 ≠ node
  targets
    : ∀ edge ∈ graph.edges,
        ¬ Synthesized synthetic edge.1 → Declared files edge.2 ∨ Foreign files edge.2

/-- Every call of a listed method to a target that the program does not declare leads to all
methods of its name, and to the target itself where there are none.
-/
def ReachesNamesakes (files : List SourceFile) (synthetic : List SyntheticMethod)
    (graph : CallGraph)
    : Prop :=
  ∀ node ∈ graph.nodes,
    ¬ Synthesized synthetic node
    → ∀ method,
        ((Program.methodsOf files).find? fun method => method.signature == node) = some method
        → ∀ cfg ∈ method.cfg, ∀ stmt ∈ cfg.stmts, ∀ expr ∈ stmt.exprs,
            ∀ target,
              expr.Targets target
              → ¬ Declared files target
              → (∀ namesake ∈ Program.methodsOf files,
                  namesake.name = Signature.methodName target
                  → (node, namesake.signature) ∈ graph.edges)
                ∧ (Foreign files target → (node, target) ∈ graph.edges)

/-- Whatever the limit, the edges of the call graph stay inside.
Witness: every edge is a call of its caller.
-/
theorem buildIn_staysInside {limit : Option Json} {entries : List Text} {graph : CallGraph}
    (built : buildIn (.ofFiles files) synthetic limit entries = .ok graph)
    : StaysInside files synthetic graph := by
  have calls := exploreIn_edges _ _ built (by simp [roots])
  constructor
  case leaves =>
    rintro node - plain undeclared edge member rfl
    obtain ⟨called, told, callee⟩ := calls edge member
    cases (calleesIn_undeclared plain undeclared).symm.trans told
    cases callee
  case targets =>
    intro edge member plain
    obtain ⟨called, told, callee⟩ := calls edge member
    exact declared_or_foreign_of_calleesIn plain told callee

/-- Without a limit, the call graph has every call of its nodes as an edge. -/
theorem IsReachableGraph.mem_edges {callees : Text → List Text} {entries : List Text}
    {graph : CallGraph} (reachable : IsReachableGraph callees entries graph) {caller callee : Text}
    (listed : caller ∈ graph.nodes) (called : callee ∈ callees caller)
    : (caller, callee) ∈ graph.edges := by
  rw [reachable.edges]
  exact List.mem_flatMap.mpr ⟨caller, listed, List.mem_map_of_mem called⟩

/-- Without a limit, calls to undeclared targets reach the methods of their names. -/
theorem IsReachableGraph.reachesNamesakes {callees : Text → List Text} {entries : List Text}
    {graph : CallGraph} (reachable : IsReachableGraph callees entries graph)
    (told : ∀ node, calleesIn (.ofFiles files) synthetic node = .ok (callees node))
    : ReachesNamesakes files synthetic graph := by
  intro node listed plain method found cfg body stmt inside expr here target targets undeclared
  have done := (calleesIn_body plain found body).symm.trans (told node)
  have met : expr ∈ cfg.stmts.flatMap Stmt.exprs := List.mem_flatMap.mpr ⟨stmt, inside, here⟩
  have edge {callee : Text} (reached : callee ∈ resolveTarget (.ofFiles files) target)
      : (node, callee) ∈ graph.edges :=
    reachable.mem_edges listed
      ((mem_calls_iff done).mpr ⟨expr, met, _, resolve_targets _ targets, reached⟩)
  constructor
  · intro namesake member bears
    exact edge ((mem_resolveTarget_iff undeclared _).mpr (Or.inl ⟨namesake, member, bears, rfl⟩))
  · intro foreign
    exact edge ((mem_resolveTarget_iff undeclared _).mpr (Or.inr ⟨foreign, rfl⟩))

/-- The call graph of a program with typed calls stays inside of it under every limit, and without
one its calls reach all methods of the names they call.
-/
theorem build_resolvesCompletely (host : Host) (files : List SourceFile)
    (synthetic : List SyntheticMethod) (entries : List Text) (limit : Option Int)
    (session : Session) (obliging : host.Obliging)
    (typed : ∀ method ∈ Program.methodsOf files, CallsTyped method)
    : ∃ graph after,
        outcome (build host (.ofFiles files) synthetic (limit.map Json.int) entries) session
          = (.ok graph, after)
        ∧ StaysInside files synthetic graph
        ∧ (limit = none → ReachesNamesakes files synthetic graph) := by
  obtain ⟨graph, built⟩ := buildIn_typed typed synthetic limit entries
  obtain ⟨after, -, done, -⟩ :=
    (build_answers host (.ofFiles files) synthetic (limit.map Json.int) entries).obliged obliging
      session
  rw [built] at done
  refine ⟨graph, after, done, buildIn_staysInside built, ?_⟩
  rintro rfl
  obtain ⟨callees, told⟩ := Classical.skolem.mp (calleesIn_typed typed synthetic)
  obtain ⟨whole, also, reachable⟩ := buildIn_reachable told entries
  cases built.symm.trans also
  exact reachable.reachesNamesakes told

/-- (forkFile) is a file with a method that calls `g` of an unknown class, by an embedded signature,
and `h`, which no class has. Two classes have a method `g`.
-/
def forkFile : SourceFile where
  path := "a.ets"
  classes := [
    bearing "A" "f" [
      ⟨"invoke x.<@x.ets: X.g()>()", .unresolved⟩,
      ⟨"x", .signature "@x.ets: X.h()"⟩],
    bearing "B" "g" [],
    bearing "C" "g" []]
where
  bearing (name method : Text) (exprs : List Expr) : ClassDecl := {
    name
    filePath := "a.ets"
    superclass := ""
    decorators := []
    methods := [{
      name := method
      className := name
      signature := Method.defaultSignature "a.ets" name method
      filePath := "a.ets"
      line := 1
      column := 1
      cfg := some ⟨[⟨0, [⟨"x", 2, 1, exprs⟩]⟩]⟩ }] }

/-- A call of the unknown method `g` reaches both methods of that name. -/
theorem build_resolvesCompletely_fork
    : Host.willing.Obliging
      ∧ (∀ method ∈ Program.methodsOf [forkFile], CallsTyped method)
      ∧ ∃ graph after,
          outcome (build .willing (.ofFiles [forkFile]) [] none ["@a.ets: A.f()"]) .fresh
            = (.ok graph, after)
          ∧ StaysInside [forkFile] [] graph
          ∧ ReachesNamesakes [forkFile] [] graph := by
  have typed : ∀ method ∈ Program.methodsOf [forkFile], CallsTyped method := by
    simp [Program.methodsOf, Program.classesOf, forkFile, forkFile.bearing, CallsTyped, Cfg.stmts]
  obtain ⟨graph, after, done, inside, reaches⟩ :=
    build_resolvesCompletely .willing [forkFile] [] ["@a.ets: A.f()"] none .fresh
      Host.willing_denies_nothing typed
  exact ⟨Host.willing_denies_nothing, typed, graph, after, done, inside, reaches rfl⟩

end CallGraph

end ArkLifecycle
