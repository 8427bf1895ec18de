import ArkLifecycle.Proofs.CallGraph.Exploration
import ArkLifecycle.Proofs.Program.Index

/-! The call graph of a program is the graph of all that its entry points reach.

Every node is an entry point or stands in the calls of one method, so there are no more nodes than
calls, and the exploration has room for all of them.
-/

namespace ArkLifecycle.CallGraph

open Activity

/-- The front end gave every call in the body of the method a signature or nothing. -/
def CallsTyped (method : Method) : Prop :=
  ∀ cfg ∈ method.cfg,
    ∀ stmt ∈ cfg.stmts, ∀ expr ∈ stmt.exprs, ∀ value, expr.callee ≠ .malformed value

-----------------------------------------------------------------------------------------
-- What a node calls
-----------------------------------------------------------------------------------------

/-- (calleesIn program synthetic signature) are the methods that a node may call, when nobody
denies a question.
-/
def calleesIn (program : Program) (synthetic : List SyntheticMethod) (signature : Text)
    : Except Fault (List Text) :=
  match syntheticCalls? synthetic signature with
  | some calls => .ok calls
  | none =>
      match (program.method? signature).bind Method.cfg with
      | none => .ok []
      | some cfg => calls program cfg

/-- A node is asked only for its body, and its callees are told truthfully or not at all. -/
theorem calleesOf_answers (host : Host) (program : Program) (synthetic : List SyntheticMethod)
    (signature : Text)
    : Answers host (fun _ => True) (calleesOf host program synthetic signature)
        (calleesIn program synthetic signature) := by
  unfold calleesOf calleesIn
  cases syntheticCalls? synthetic signature with
  | some calls => exact .pure calls
  | none =>
      cases program.method? signature with
      | none => exact .pure []
      | some method =>
          simp only [Option.bind_some]
          refine (Answers.bodyOf trivial).bind_ok ?_
          cases method.cfg with
          | none => exact .pure []
          | some cfg => exact .lift _

/-- A typed call is resolved to some methods, possibly none. -/
theorem resolve_typed (program : Program) {expr : Expr}
    (typed : ∀ value, expr.callee ≠ .malformed value)
    : ∃ callees, resolve program expr = .ok callees := by
  unfold resolve
  cases callee : expr.callee with
  | signature target => exact ⟨_, rfl⟩
  | malformed value => exact absurd callee (typed value)
  | unresolved =>
      cases Signature.embedded? expr.text with
      | none => exact ⟨_, rfl⟩
      | some target => exact ⟨_, rfl⟩

/-- Typed bodies have calls.
Witness: induction over the expressions, each of which is resolved.
-/
theorem calls_typed (program : Program) {cfg : Cfg}
    (typed : ∀ stmt ∈ cfg.stmts, ∀ expr ∈ stmt.exprs, ∀ value, expr.callee ≠ .malformed value)
    : ∃ callees, calls program cfg = .ok callees := by
  have resolved (exprs : List Expr)
      (typed : ∀ expr ∈ exprs, ∀ value, expr.callee ≠ .malformed value)
      : ∃ found, exprs.mapM (resolve program) = .ok found := by
    induction exprs with
    | nil => exact ⟨[], rfl⟩
    | cons expr rest ih =>
        obtain ⟨callees, head⟩ := resolve_typed program (typed expr (by simp))
        obtain ⟨found, tail⟩ := ih fun expr member => typed expr (List.mem_cons_of_mem _ member)
        refine ⟨callees :: found, ?_⟩
        rw [List.mapM_cons, head, tail]
        rfl
  obtain ⟨found, done⟩ := resolved (cfg.stmts.flatMap Stmt.exprs) (by
    intro expr member
    obtain ⟨stmt, inside, listed⟩ := List.mem_flatMap.mp member
    exact typed stmt inside expr listed)
  refine ⟨found.flatten, ?_⟩
  simp only [calls, done]
  rfl

/-- In a program with typed calls every node has callees. -/
theorem calleesIn_typed {files : List SourceFile}
    (typed : ∀ method ∈ Program.methodsOf files, CallsTyped method)
    (synthetic : List SyntheticMethod) (signature : Text)
    : ∃ callees, calleesIn (Program.ofFiles files) synthetic signature = .ok callees := by
  unfold calleesIn
  cases syntheticCalls? synthetic signature with
  | some calls => exact ⟨calls, rfl⟩
  | none =>
      cases found : (Program.ofFiles files).method? signature with
      | none => exact ⟨[], rfl⟩
      | some method =>
          rw [Program.method?_ofFiles] at found
          cases body : method.cfg with
          | none => exact ⟨[], by simp [body]⟩
          | some cfg =>
              obtain ⟨callees, called⟩ := calls_typed (Program.ofFiles files)
                (typed method (List.mem_of_find?_eq_some found) cfg body)
              exact ⟨callees, by simp [body, called]⟩

-----------------------------------------------------------------------------------------
-- How many nodes there can be
-----------------------------------------------------------------------------------------

/-- (bodyCallees program method) are the methods that the body of a method may call. -/
def bodyCallees (program : Program) (method : Method) : List Text :=
  match method.cfg.map (calls program) with
  | some (.ok callees) => callees
  | _ => []

/-- (mentioned program synthetic entries) lists all signatures that can become nodes. -/
def mentioned (program : Program) (synthetic : List SyntheticMethod) (entries : List Text)
    : List Text :=
  entries ++ synthetic.flatMap SyntheticMethod.calls
    ++ (Program.methodsOf program.files).flatMap (bodyCallees program)

/-- The bound of an exploration counts the signatures that can become nodes. -/
theorem sizeBound_eq_length_mentioned (program : Program) (synthetic : List SyntheticMethod)
    (entries : List Text)
    : sizeBound program synthetic entries = (mentioned program synthetic entries).length := by
  simp only [sizeBound, mentioned, bodyCalls, ← List.sum_eq_foldr, List.length_append,
    List.length_flatMap]
  refine congrArg (_ + List.sum ·) (List.map_congr_left fun method _ => ?_)
  unfold bodyCallees
  rcases method.cfg.map (calls program) with _ | _ | _ <;> rfl

/-- What a node calls is mentioned.
Witness: a synthetic node is one of the given methods, and any other node with calls is a method
that the program lists.
-/
theorem calleesIn_mentioned {files : List SourceFile} {synthetic : List SyntheticMethod}
    {signature : Text} {callees : List Text} (entries : List Text)
    (told : calleesIn (Program.ofFiles files) synthetic signature = .ok callees)
    : callees ⊆ mentioned (Program.ofFiles files) synthetic entries := by
  intro callee member
  unfold calleesIn at told
  cases known : syntheticCalls? synthetic signature with
  | some calls =>
      rw [known] at told
      obtain ⟨method, found, same⟩ := Option.map_eq_some_iff.mp known
      have listed : method ∈ synthetic := List.mem_reverse.mp (List.mem_of_find?_eq_some found)
      have called : callee ∈ method.calls := by rw [same, Except.ok.inj told]; exact member
      exact List.mem_append_left _
        (List.mem_append_right _ (List.mem_flatMap.mpr ⟨method, listed, called⟩))
  | none =>
      rw [known] at told
      cases found : (Program.ofFiles files).method? signature with
      | none =>
          simp only [found, Option.bind_none, Except.ok.injEq] at told
          simp [← told] at member
      | some method =>
          simp only [found, Option.bind_some] at told
          cases body : method.cfg with
          | none =>
              simp only [body, Except.ok.injEq] at told
              simp [← told] at member
          | some cfg =>
              simp only [body] at told
              have listed : method ∈ Program.methodsOf (Program.ofFiles files).files := by
                rw [Program.method?_ofFiles] at found
                simpa only [Program.ofFiles, Program.methodsOf_settle]
                  using List.mem_of_find?_eq_some found
              refine List.mem_append_right _ (List.mem_flatMap.mpr ⟨method, listed, ?_⟩)
              simpa [bodyCallees, body, told] using member

/-- Reachable nodes are mentioned, because entry points and callees are. -/
theorem Reachable.mentioned {files : List SourceFile} {synthetic : List SyntheticMethod}
    {entries : List Text} {callees : Text → List Text} {node : Text}
    (told : ∀ node, calleesIn (Program.ofFiles files) synthetic node = .ok (callees node))
    (reached : Reachable callees entries node)
    : node ∈ mentioned (Program.ofFiles files) synthetic entries := by
  cases reached with
  | entry member => exact List.mem_append_left _ (List.mem_append_left _ member)
  | call _ called => exact calleesIn_mentioned entries (told _) called

-----------------------------------------------------------------------------------------
-- The call graph of a program
-----------------------------------------------------------------------------------------

/-- Without a limit on the nodes, the call graph of a program with typed calls is the graph that
its entry points reach, for every list of synthetic methods and of entry points.
Witness: all nodes are mentioned, and the fuel of the exploration exceeds their number.
-/
theorem build_isReachableGraph (host : Host) (files : List SourceFile)
    (synthetic : List SyntheticMethod) (entries : List Text) (session : Session)
    (obliging : host.Obliging)
    (typed : ∀ method ∈ Program.methodsOf files, CallsTyped method)
    : ∃ callees : Text → List Text,
        (∀ node session,
          (outcome (calleesOf host (Program.ofFiles files) synthetic node) session).1
            = .ok (callees node))
        ∧ ∃ graph after,
            outcome (build host (Program.ofFiles files) synthetic none entries) session
              = (.ok graph, after)
            ∧ IsReachableGraph callees entries graph := by
  obtain ⟨callees, told⟩ := Classical.skolem.mp (calleesIn_typed typed synthetic)
  have answers (node : Text)
      : Answers host (fun _ => True) (calleesOf host (Program.ofFiles files) synthetic node)
          (.ok (callees node)) :=
    told node ▸ calleesOf_answers host (Program.ofFiles files) synthetic node
  refine ⟨callees, ?_, ?_⟩
  · intro node session
    obtain ⟨after, -, done, -⟩ := (answers node).obliged obliging session
    rw [done]
  · obtain ⟨graph, explored, reachable⟩ := explore_unlimited answers
      (fun node reached => reached.mentioned told)
      (sizeBound (Program.ofFiles files) synthetic entries + 1) 0 (roots entries)
      (.start callees entries) (by rw [sizeBound_eq_length_mentioned]; omega)
    obtain ⟨after, -, done, -⟩ := (explored.span "tool.cha_callgraph"
      [("entry_count", .ofNat (roots entries).nodes.length)]).obliged obliging session
    exact ⟨graph, after, done, reachable⟩

/-- (loopFile) is a file whose only method calls itself once and an unknown method twice. -/
def loopFile : SourceFile where
  path := "a.ets"
  classes := [{
    name := "A"
    filePath := "a.ets"
    superclass := ""
    decorators := []
    methods := [{
      name := "f"
      className := "A"
      signature := "@a.ets: A.f()"
      filePath := "a.ets"
      line := 1
      column := 1
      cfg := some ⟨[⟨0, [⟨"x", 2, 1, [
        ⟨"x", .signature "@a.ets: A.f()"⟩,
        ⟨"x", .signature "@b.ets: B.g()"⟩,
        ⟨"x", .signature "@b.ets: B.g()"⟩]⟩]⟩]⟩ }] }]

/-- The reachable graph exists for a method that calls itself, entered twice. -/
theorem build_isReachableGraph_loop
    : Host.willing.Obliging
      ∧ (∀ method ∈ Program.methodsOf [loopFile], CallsTyped method)
      ∧ ∃ callees : Text → List Text,
          (∀ node session,
            (outcome (calleesOf .willing (Program.ofFiles [loopFile]) [] node) session).1
              = .ok (callees node))
          ∧ ∃ graph after,
              outcome (build .willing (Program.ofFiles [loopFile]) [] none
                  ["@a.ets: A.f()", "@a.ets: A.f()"]) .fresh
                = (.ok graph, after)
              ∧ IsReachableGraph callees ["@a.ets: A.f()", "@a.ets: A.f()"] graph := by
  have obliging : Host.willing.Obliging := fun _ _ => rfl
  have typed : ∀ method ∈ Program.methodsOf [loopFile], CallsTyped method := by
    simp [Program.methodsOf, Program.classesOf, loopFile, CallsTyped, Cfg.stmts]
  exact ⟨obliging, typed, build_isReachableGraph .willing [loopFile] [] _ .fresh obliging typed⟩

end ArkLifecycle.CallGraph
