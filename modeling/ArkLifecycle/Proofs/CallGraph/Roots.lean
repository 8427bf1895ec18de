import ArkLifecycle.CallGraph.Strategy
import ArkLifecycle.Proofs.CallGraph.Resolution
import ArkLifecycle.Proofs.Identification.Collection

/-! The virtual entry method as the only root, and the callbacks as roots, lead to the same program.

The virtual method calls the callbacks that have a body. So a node that one of the two graphs
reaches is reached in the other one as well, up to the virtual method itself and to callbacks
without a body, which call nothing.
-/

namespace ArkLifecycle

open Activity

namespace CallGraph

-----------------------------------------------------------------------------------------
-- A root that stands for others
-----------------------------------------------------------------------------------------

section Roots

variable {ν : Type}

/-- The nodes of a reachable graph are the reachable ones. -/
theorem IsReachableGraph.mem_nodes [BEq ν] {callees : ν → List ν} {entries : List ν}
    {graph : CallGraph ν} (reachable : IsReachableGraph callees entries graph) (node : ν)
    : node ∈ graph.nodes ↔ Reachable callees entries node := by
  constructor
  · intro member
    have closed : Closed callees entries {node | Reachable callees entries node} :=
      ⟨fun _ entry => .entry entry, fun _ reached _ called => .call reached called⟩
    exact reachable.least.2 closed member
  · intro reached
    exact reached.mem_closed reachable.least.1

/-- What a root calls stands for the root: it calls the starting points, except for some that call
nothing, and it is called by nobody.
-/
structure StandsFor (root : ν) (callees others : ν → List ν) (starts idle : List ν) : Prop where
  same : ∀ node, node ≠ root → callees node = others node
  called : ∀ start ∈ starts, start ∈ callees root ∨ start ∈ idle
  starting : ∀ callee ∈ callees root, callee ∈ starts
  resting : ∀ node ∈ idle, node ∈ starts ∧ others node = []
  apart : ∀ start ∈ starts, start ≠ root
  uncalled : ∀ node, root ∉ others node

variable {root : ν} {callees others : ν → List ν} {starts idle : List ν}

/-- From the starting points, the same nodes are reached as from the root, except for the root, and
also the starting points that call nothing.
Witness: induction along the calls in both directions.
-/
theorem StandsFor.reachable_iff (stands : StandsFor root callees others starts idle) (node : ν)
    : Reachable others starts node
      ↔ (Reachable callees [root] node ∧ node ≠ root) ∨ node ∈ idle := by
  constructor
  · intro reached
    induction reached with
    | @entry start member =>
        rcases stands.called start member with called | rests
        · exact Or.inl ⟨.call (.entry (List.mem_singleton_self root)) called,
            stands.apart start member⟩
        · exact Or.inr rests
    | @call caller callee _ called ih =>
        rcases ih with ⟨reached, apart⟩ | rests
        · refine Or.inl ⟨.call reached (stands.same caller apart ▸ called), ?_⟩
          rintro rfl
          exact stands.uncalled caller called
        · rw [(stands.resting caller rests).2] at called
          cases called
  · rintro (⟨reached, apart⟩ | rests)
    · induction reached with
      | entry member => exact absurd (List.mem_singleton.mp member) apart
      | @call caller callee _ called ih =>
          by_cases first : caller = root
          · exact .entry (stands.starting callee (first ▸ called))
          · exact .call (ih first) (stands.same caller first ▸ called)
    · exact .entry (stands.resting node rests).1

/-- Lists without repetitions give the same altogether, in some order, if they have the same members
that give something.
-/
theorem flatMap_perm_of_mem_iff {β : Type} [DecidableEq ν] {give : ν → List β} {left right : List ν}
    (unique : left.Nodup) (also : right.Nodup)
    (same : ∀ node, give node ≠ [] → (node ∈ left ↔ node ∈ right))
    : (left.flatMap give).Perm (right.flatMap give) := by
  have giving (nodes : List ν)
      : (nodes.filter fun node => !(give node).isEmpty).flatMap give = nodes.flatMap give := by
    induction nodes with
    | nil => rfl
    | cons node rest ih => cases gives : give node <;> simp [gives, ih]
  rw [← giving left, ← giving right]
  refine List.Perm.flatMap_right give ?_
  rw [List.perm_ext_iff_of_nodup (unique.filter _) (also.filter _)]
  intro node
  simp only [List.mem_filter]
  refine and_congr_left fun gives => same node ?_
  simpa using gives

/-- The graphs from both ends have the same calls, apart from those of the root.
Witness: edges come from nodes, each with its calls, and the nodes that differ call nothing.
-/
theorem StandsFor.edges_perm [DecidableEq ν]
    (stands : StandsFor root callees others starts idle) {whole part : CallGraph ν}
    (reaching : IsReachableGraph callees [root] whole)
    (starting : IsReachableGraph others starts part)
    : part.edges.Perm (whole.edges.filter fun edge => edge.1 ≠ root) := by
  have without
      : (whole.edges.filter fun edge => edge.1 ≠ root)
        = (whole.nodes.filter fun node => node ≠ root).flatMap (callEdges others) := by
    rw [reaching.edges]
    induction whole.nodes with
    | nil => rfl
    | cons node rest ih =>
        rw [List.flatMap_cons, List.filter_append, ih]
        by_cases first : node = root
        · simp [callEdges, first]
        · simp [callEdges, first, stands.same node first]
  rw [starting.edges, without]
  -- The nodes come in other orders, and idle starting points are nodes of one graph only.
  refine flatMap_perm_of_mem_iff starting.unique (reaching.unique.filter _) fun node calls => ?_
  rw [starting.mem_nodes, stands.reachable_iff, List.mem_filter, reaching.mem_nodes,
    decide_eq_true_iff]
  refine or_iff_left fun rests => calls ?_
  rw [callEdges, (stands.resting node rests).2, List.map_nil]

end Roots

-----------------------------------------------------------------------------------------
-- Calls of the virtual method and of the program
-----------------------------------------------------------------------------------------

/-- Without a limit, the call graph is the reachable graph.
Witness: what an exploration tells a willing host is what it gives when nobody denies a question.
-/
theorem buildIn_reachable {files : List SourceFile} {synthetic : List SyntheticMethod}
    {callees : Text → List Text}
    (told : ∀ node, calleesIn (.ofFiles files) synthetic node = .ok (callees node))
    (entries : List Text)
    : ∃ graph,
        buildIn (.ofFiles files) synthetic none entries = .ok graph
        ∧ IsReachableGraph callees entries graph := by
  have answers (node : Text)
      : Answers .willing (fun _ => True) (calleesOf .willing (.ofFiles files) synthetic node)
          (.ok (callees node)) :=
    told node ▸ calleesOf_answers .willing (.ofFiles files) synthetic node
  obtain ⟨graph, explored, reachable⟩ := explore_unlimited answers
    (fun node reached => reached.mentioned told)
    (sizeBound (.ofFiles files) synthetic entries + 1) 0 (roots entries)
    (.start callees entries) (by rw [sizeBound_eq_length_mentioned]; omega)
  obtain ⟨_, _, found, -⟩ := explored.obliged Host.willing_denies_nothing .fresh
  obtain ⟨_, _, built, -⟩ :=
    (explore_answers none (calleesOf_answers .willing (.ofFiles files) synthetic)
      (sizeBound (.ofFiles files) synthetic entries + 1) 0 (roots entries)).obliged
      Host.willing_denies_nothing .fresh
  exact ⟨graph, congrArg Prod.fst (built.symm.trans found), reachable⟩

/-- What a body calls is what one of its expressions is resolved to.
Witness: induction over the expressions, each of which is resolved.
-/
theorem mem_calls_iff {program : Program} {cfg : Cfg} {called : List Text}
    (done : calls program cfg = .ok called) {callee : Text}
    : callee ∈ called
      ↔ ∃ expr ∈ cfg.stmts.flatMap Stmt.exprs,
          ∃ targets, resolve program expr = .ok targets ∧ callee ∈ targets := by
  have walk (exprs : List Expr) (found : List (List Text))
      (resolved : exprs.mapM (resolve program) = .ok found)
      : callee ∈ found.flatten
        ↔ ∃ expr ∈ exprs, ∃ targets, resolve program expr = .ok targets ∧ callee ∈ targets := by
    induction exprs generalizing found with
    | nil =>
        cases resolved
        simp
    | cons expr rest ih =>
        rw [List.mapM_cons] at resolved
        obtain ⟨targets, first, resolved⟩ := bind_eq_ok resolved
        obtain ⟨more, others, same⟩ := bind_eq_ok resolved
        cases same
        rw [List.flatten_cons, List.mem_append, ih more others]
        simp [first]
  obtain ⟨found, resolved, same⟩ := bind_eq_ok done
  cases same
  exact walk _ found resolved

/-- A node other than the virtual method calls the same whether that is known or not. -/
theorem calleesIn_of_ne (program : Program) {entry : SyntheticMethod} {node : Text}
    (other : node ≠ entry.signature)
    : calleesIn program [entry] node = calleesIn program [] node := by
  have unknown : syntheticCalls? [entry] node = none := by
    simp [syntheticCalls?, Ne.symm other]
  rw [calleesIn, unknown]
  rfl

theorem calleesIn_signature (program : Program) (entry : SyntheticMethod)
    : calleesIn program [entry] entry.signature = .ok entry.calls := by
  simp [calleesIn, syntheticCalls?]

section Program

variable {files : List SourceFile}

/-- If all signatures differ, a method is found by its own. -/
theorem method?_of_mem (apart : ((Program.methodsOf files).map Method.signature).Nodup)
    {method : Method} (member : method ∈ Program.methodsOf files)
    : (Program.ofFiles files).method? method.signature = some method := by
  rw [Program.method?_ofFiles]
  cases found
      : (Program.methodsOf files).find? fun other => other.signature == method.signature with
  | none => simpa using List.find?_eq_none.mp found method member
  | some other =>
      have same : other.signature = method.signature := by simpa using List.find?_some found
      have listed := List.mem_of_find?_eq_some found
      rw [List.inj_on_of_nodup_map apart listed member same]

/-- A method without an implementation calls nothing. -/
theorem calleesIn_bodiless (apart : ((Program.methodsOf files).map Method.signature).Nodup)
    {method : Method} (member : method ∈ Program.methodsOf files)
    (bodiless : method.hasImplementation = false)
    : calleesIn (.ofFiles files) [] method.signature = .ok [] := by
  have unknown : syntheticCalls? [] method.signature = none := rfl
  rw [calleesIn, unknown, method?_of_mem apart member, Option.bind_some]
  cases body : method.cfg with
  | none => rfl
  | some cfg =>
      have empty : cfg.blocks = [] := by
        simpa [Method.hasImplementation, Method.isImplemented, body, Cfg.isEmpty] using bodiless
      simp only [calls, Cfg.stmts, empty, List.flatMap_nil, List.mapM_nil]
      rfl

/-- If no call is resolved to a signature, no node calls it. -/
theorem not_mem_calleesIn {target : Text}
    (uncalled
      : ∀ expr ∈ exprsOf files,
          ∀ targets, resolve (.ofFiles files) expr = .ok targets → target ∉ targets)
    {node : Text} {called : List Text} (done : calleesIn (.ofFiles files) [] node = .ok called)
    : target ∉ called := by
  have unknown : syntheticCalls? [] node = none := rfl
  rw [calleesIn, unknown, Program.method?_ofFiles] at done
  intro member
  cases found : (Program.methodsOf files).find? fun method => method.signature == node with
  | none =>
      rw [found] at done
      cases done
      cases member
  | some method =>
      rw [found, Option.bind_some] at done
      cases body : method.cfg with
      | none =>
          rw [body] at done
          cases done
          cases member
      | some cfg =>
          rw [body] at done
          obtain ⟨expr, inside, targets, resolved, here⟩ := (mem_calls_iff done).mp member
          have listed := mem_exprsOf (List.mem_of_find?_eq_some found) body inside
          exact uncalled expr listed targets resolved here

/-- The virtual method stands for the callbacks. -/
theorem standsFor_callbacks (apart : ((Program.methodsOf files).map Method.signature).Nodup)
    (unnamed : ∀ method ∈ Program.methodsOf files, method.signature ≠ EntryMethod.signature)
    (uncalled
      : ∀ expr ∈ exprsOf files,
          ∀ targets,
            resolve (.ofFiles files) expr = .ok targets → EntryMethod.signature ∉ targets)
    {records : List Record}
    (declared
      : ∀ record ∈ records,
          ∃ method ∈ Program.methodsOf files,
            record.signature = method.signature
            ∧ record.hasImplementation = method.hasImplementation)
    {callees others : Text → List Text}
    (told
      : ∀ node,
          calleesIn (.ofFiles files) [EntryMethod.ofRecords records] node = .ok (callees node))
    (also : ∀ node, calleesIn (.ofFiles files) [] node = .ok (others node))
    : StandsFor EntryMethod.signature callees others
        (distinct (records.map Record.signature))
        ((records.filter (!·.hasImplementation)).map Record.signature) := by
  have starts (node : Text)
      : node ∈ distinct (records.map Record.signature)
        ↔ ∃ record ∈ records, record.signature = node := by
    rw [distinct_eq_eraseDups, List.mem_eraseDups, List.mem_map]
  have calls : callees EntryMethod.signature = EntryMethod.callsOf records :=
    Except.ok.inj ((told _).symm.trans (calleesIn_signature _ (EntryMethod.ofRecords records)))
  constructor
  case same =>
    intro node other
    exact Except.ok.inj ((told node).symm.trans ((calleesIn_of_ne _ other).trans (also node)))
  case called =>
    intro node start
    obtain ⟨record, member, rfl⟩ := (starts node).mp start
    rw [calls, EntryMethod.callsOf]
    cases present : record.hasImplementation with
    | true =>
        exact Or.inl (List.mem_map_of_mem (List.mem_filter.mpr ⟨member, present⟩))
    | false =>
        refine Or.inr (List.mem_map_of_mem (List.mem_filter.mpr ⟨member, ?_⟩))
        rw [present, Bool.not_false]
  case starting =>
    intro node called
    rw [calls, EntryMethod.callsOf] at called
    obtain ⟨record, kept, rfl⟩ := List.mem_map.mp called
    exact (starts _).mpr ⟨record, List.mem_of_mem_filter kept, rfl⟩
  case resting =>
    intro node idle
    obtain ⟨record, kept, rfl⟩ := List.mem_map.mp idle
    obtain ⟨member, absent⟩ := List.mem_filter.mp kept
    obtain ⟨method, listed, same, body⟩ := declared record member
    refine ⟨(starts _).mpr ⟨record, member, rfl⟩, ?_⟩
    have bodiless : method.hasImplementation = false := by simpa [← body] using absent
    have empty := calleesIn_bodiless apart listed bodiless
    rw [← same, also] at empty
    exact Except.ok.inj empty
  case apart =>
    intro node start
    obtain ⟨record, member, rfl⟩ := (starts node).mp start
    obtain ⟨method, listed, same, -⟩ := declared record member
    exact same ▸ unnamed method listed
  case uncalled => exact fun node => not_mem_calleesIn uncalled (also node)

end Program

end CallGraph

namespace CallGraphSummary

-----------------------------------------------------------------------------------------
-- Summaries
-----------------------------------------------------------------------------------------

/-- (builtFrom program synthetic limit strategy entries) is the summary of a call graph from chosen
roots on, or the message of the fault that prevents it.
-/
def builtFrom (program : Program) (synthetic : List SyntheticMethod) (limit : Option Json)
    (strategy : Strategy) (entries : List Text)
    : CallGraphSummary :=
  match CallGraph.buildIn program synthetic limit entries with
  | .ok graph => ⟨some graph, strategy, entries, none⟩
  | .error fault => ⟨none, strategy, entries, some fault.message⟩

/-- Once some roots are chosen, an obliging host gets the call graph from these on.
Witness: the builder runs inside of two spans, which change nothing of what it gives.
-/
theorem build_chosen {host : Host} (obliging : host.Obliging) {program : Program}
    {synthetic : List SyntheticMethod} {limit : Option Json} {records : List Record}
    {strategy : Strategy} {entries : List Text} {before : Session}
    (chosen
      : outcome (chooseRoots (.hierarchy synthetic limit) program records) before
        = (.ok (strategy, entries), before))
    (rooted : entries ≠ [])
    : ∃ after,
        outcome (build (.hierarchy synthetic limit) host program records) before
          = (.ok (builtFrom program synthetic limit strategy entries), after) := by
  have tried := outcome_attempt (chooseRoots (.hierarchy synthetic limit) program records) before
  rw [chosen] at tried
  have answers
      : Answers host (fun _ => True)
          (buildFrom (.hierarchy synthetic limit) host program strategy entries)
          (CallGraph.buildIn program synthetic limit entries
            >>= fun graph => .ok (some graph)) := by
    have built := CallGraph.build_answers host program synthetic limit entries
    unfold buildFrom
    rw [if_neg (by simpa using rooted), map_eq_pure_bind]
    exact (built.bind fun graph _ => .pure (some graph)).span _ _
  obtain ⟨after, -, done, -⟩ := answers.obliged obliging before
  have built := outcome_attempt
    (buildFrom (.hierarchy synthetic limit) host program strategy entries) before
  rw [done] at built
  refine ⟨after, ?_⟩
  rw [build, outcome_bind_ok tried]
  dsimp only
  rw [outcome_bind_ok built, builtFrom]
  cases CallGraph.buildIn program synthetic limit entries with
  | error fault => rfl
  | ok graph => rfl

/-- A builder that knows the virtual method begins with it. -/
theorem chooseRoots_entry (program : Program) (limit : Option Json) (records others : List Record)
    (before : Session)
    : outcome
        (chooseRoots (.hierarchy [EntryMethod.ofRecords records] limit) program others) before
      = (.ok (.syntheticEntry, [EntryMethod.signature]), before) := by
  have known
      : (CallGraph.syntheticCalls? [EntryMethod.ofRecords records] EntryMethod.signature).isSome
        = true := by
    simp [CallGraph.syntheticCalls?, EntryMethod.ofRecords]
  simp only [chooseRoots, Backend.hasMethod, known, Bool.true_or]
  rfl

/-- A builder that does not know it begins with the callbacks. -/
theorem chooseRoots_callbacks {files : List SourceFile}
    (unnamed : ∀ method ∈ Program.methodsOf files, method.signature ≠ EntryMethod.signature)
    (limit : Option Json) {records : List Record} (found : records ≠ []) (before : Session)
    : outcome (chooseRoots (.hierarchy [] limit) (.ofFiles files) records) before
        = (.ok (.lifecycleEntries, CallGraph.distinct (records.map Record.signature)), before)
      ∧ CallGraph.distinct (records.map Record.signature) ≠ [] := by
  have unknown : (Program.ofFiles files).method? EntryMethod.signature = none := by
    rw [Program.method?_ofFiles, List.find?_eq_none]
    intro method member named
    exact unnamed method member (by simpa using named)
  have rooted : CallGraph.distinct (records.map Record.signature) ≠ [] := by
    obtain ⟨record, member⟩ := List.exists_mem_of_ne_nil records found
    rw [CallGraph.distinct_eq_eraseDups]
    exact List.ne_nil_of_mem (List.mem_eraseDups.mpr (List.mem_map_of_mem member))
  refine ⟨?_, rooted⟩
  have asked
      : outcome (Backend.hasMethod (.hierarchy [] limit) (.ofFiles files) EntryMethod.signature)
          before
        = (.ok false, before) := by
    rw [Backend.hasMethod, unknown]
    rfl
  rw [chooseRoots, outcome_bind_ok asked]
  cases listed : CallGraph.distinct (records.map Record.signature) with
  | nil => exact absurd listed rooted
  | cons first rest => rfl

/-- The two ways to choose roots see the same program. If all methods have signatures of their own,
none has that of the virtual method, and no call is resolved to it, then the graph from the
callbacks has the calls of the graph from the virtual method, apart from those of the virtual method
itself; and it has the nodes of that graph without the virtual method, and the callbacks that have
no body.
Witness: the virtual method stands for the callbacks.
-/
theorem build_either_root {host : Host} (obliging : host.Obliging) {files : List SourceFile}
    (apart : ((Program.methodsOf files).map Method.signature).Nodup)
    (unnamed : ∀ method ∈ Program.methodsOf files, method.signature ≠ EntryMethod.signature)
    (uncalled
      : ∀ expr ∈ CallGraph.exprsOf files,
          ∀ targets,
            CallGraph.resolve (.ofFiles files) expr = .ok targets
            → EntryMethod.signature ∉ targets)
    (typed : ∀ method ∈ Program.methodsOf files, CallGraph.CallsTyped method)
    {catalog : Catalog} {skipTests : Bool} {found : Identification} {before after : Session}
    (identified
      : outcome (Identification.identify host (.ofFiles files) catalog skipTests) before
        = (.ok found, after))
    (recorded : found.records ≠ []) (session : Session)
    : ∃ whole part entries afterwards later,
        outcome
            (build (.hierarchy [EntryMethod.ofRecords found.records] none) host (.ofFiles files)
              found.records)
            session
          = (.ok ⟨some whole, .syntheticEntry, [EntryMethod.signature], none⟩, afterwards)
        ∧ outcome (build (.hierarchy [] none) host (.ofFiles files) found.records) session
          = (.ok ⟨some part, .lifecycleEntries, entries, none⟩, later)
        ∧ part.edges.Perm (whole.edges.filter fun edge => edge.1 ≠ EntryMethod.signature)
        ∧ ∀ node,
            node ∈ part.nodes
            ↔ (node ∈ whole.nodes ∧ node ≠ EntryMethod.signature)
              ∨ ∃ record ∈ found.records,
                  record.hasImplementation = false ∧ record.signature = node := by
  have declared (record : Record) (member : record ∈ found.records)
      : ∃ method ∈ Program.methodsOf files,
          record.signature = method.signature
          ∧ record.hasImplementation = method.hasImplementation := by
    obtain ⟨decl, examined, role, given⟩ :=
      Identification.mem_records_of_identify identified member
    obtain ⟨method, inside, kind, -, rfl⟩ := Identification.of_mem_recordsAs given
    refine ⟨method, ?_, rfl, rfl⟩
    rw [← Program.methodsOf_settle files]
    exact List.mem_flatMap.mpr
      ⟨decl, Identification.examined_subset catalog skipTests _ examined, inside⟩
  obtain ⟨callees, told⟩ := Classical.skolem.mp
    (CallGraph.calleesIn_typed typed [EntryMethod.ofRecords found.records])
  obtain ⟨others, also⟩ := Classical.skolem.mp (CallGraph.calleesIn_typed typed [])
  have stands := CallGraph.standsFor_callbacks apart unnamed uncalled declared told also
  obtain ⟨choice, rooted⟩ := chooseRoots_callbacks unnamed none recorded session
  obtain ⟨whole, entered, reaching⟩ :=
    CallGraph.buildIn_reachable told [EntryMethod.signature]
  obtain ⟨part, started, starting⟩ := CallGraph.buildIn_reachable also
    (CallGraph.distinct (found.records.map Record.signature))
  obtain ⟨afterwards, first⟩ := build_chosen obliging
    (chooseRoots_entry (.ofFiles files) none found.records found.records session) (by simp)
  obtain ⟨later, second⟩ := build_chosen obliging choice rooted
  rw [builtFrom, entered] at first
  rw [builtFrom, started] at second
  refine ⟨whole, part, _, afterwards, later, first, second,
    stands.edges_perm reaching starting, fun node => ?_⟩
  rw [starting.mem_nodes, stands.reachable_iff, reaching.mem_nodes]
  simp [and_assoc]

/-- (halfDeclared) has an ability with two callbacks: one calls itself, the other has no body. -/
def halfDeclared : SourceFile where
  path := "a.ets"
  classes := [{
    name := "A"
    filePath := "a.ets"
    superclass := "UIAbility"
    decorators := []
    methods := [
      { name := "onCreate"
        className := "A"
        signature := "@a.ets: A.onCreate()"
        filePath := "a.ets"
        line := 1
        column := 0
        cfg := some ⟨[⟨0, [⟨"x", 2, 0, [⟨"x", .signature "@a.ets: A.onCreate()"⟩]⟩]⟩]⟩ },
      { name := "onDestroy"
        className := "A"
        signature := "@a.ets: A.onDestroy()"
        filePath := "a.ets"
        line := 3
        column := 0
        cfg := none }] }]

/-- Both ways to choose roots see the call of a callback by itself, and the callback without a body
is a node of one of the two graphs only.
-/
theorem build_either_root_halfDeclared
    : ((Program.methodsOf [halfDeclared]).map Method.signature).Nodup
      ∧ (∀ method ∈ Program.methodsOf [halfDeclared], CallGraph.CallsTyped method)
      ∧ ∃ found after whole part entries afterwards later,
          outcome
              (Identification.identify .willing (.ofFiles [halfDeclared]) .standard false) .fresh
            = (.ok found, after)
          ∧ found.records.map Record.hasImplementation = [true, false]
          ∧ outcome
              (build (.hierarchy [EntryMethod.ofRecords found.records] none) .willing
                (.ofFiles [halfDeclared]) found.records)
              .fresh
            = (.ok ⟨some whole, .syntheticEntry, [EntryMethod.signature], none⟩, afterwards)
          ∧ outcome
              (build (.hierarchy [] none) .willing (.ofFiles [halfDeclared]) found.records) .fresh
            = (.ok ⟨some part, .lifecycleEntries, entries, none⟩, later)
          ∧ part.edges.Perm (whole.edges.filter fun edge => edge.1 ≠ EntryMethod.signature)
          ∧ ∀ node,
              node ∈ part.nodes
              ↔ (node ∈ whole.nodes ∧ node ≠ EntryMethod.signature)
                ∨ ∃ record ∈ found.records,
                    record.hasImplementation = false ∧ record.signature = node := by
  have apart : ((Program.methodsOf [halfDeclared]).map Method.signature).Nodup := by decide
  have unnamed
      : ∀ method ∈ Program.methodsOf [halfDeclared],
          method.signature ≠ EntryMethod.signature := by
    decide
  have uncalled
      : ∀ expr ∈ CallGraph.exprsOf [halfDeclared],
          ∀ targets,
            CallGraph.resolve (.ofFiles [halfDeclared]) expr = .ok targets
            → EntryMethod.signature ∉ targets := by
    intro expr member targets resolved
    obtain rfl := List.mem_singleton.mp member
    cases resolved
    rw [CallGraph.resolveTarget, Program.method?_ofFiles]
    decide
  have typed : ∀ method ∈ Program.methodsOf [halfDeclared], CallGraph.CallsTyped method := by
    simp [Program.methodsOf, Program.classesOf, halfDeclared, CallGraph.CallsTyped, Cfg.stmts]
  obtain ⟨after, done⟩ := Identification.identify_obliged Host.willing_denies_nothing
    (.ofFiles [halfDeclared]) .standard false .fresh
  obtain ⟨whole, part, entries, afterwards, later, both⟩ := build_either_root
    Host.willing_denies_nothing apart unnamed uncalled typed done (List.cons_ne_nil _ _) .fresh
  exact ⟨apart, typed, _, after, whole, part, entries, afterwards, later, done, rfl, both⟩

end CallGraphSummary

end ArkLifecycle
