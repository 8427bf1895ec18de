import ArkLifecycle.Proofs.Analysis.Unhindered
import ArkLifecycle.Proofs.Identification.TestFiles

/-! What skipped files of tests can still change in an analysis.

Skipped files are not walked, but names are looked up in all files: those of superclasses, and those
of methods that are called. Where nothing outside of the skipped files is found in them, an analysis
of the other files alone is the same.
-/

namespace ArkLifecycle.Analysis

open Activity Program

/-- Two analyses know the same callbacks and classes, found the same issues and use the same of the
catalog.
-/
structure SameCallbacks (left right : Analysis) : Prop where
  records : left.records = right.records
  roles : left.roles = right.roles
  entry : left.entry = right.entry
  issues : left.issues = right.issues
  coverage : left.snapshot.coverage = right.snapshot.coverage
  byUsage : left.snapshot.byUsage = right.snapshot.byUsage

/-- (renumbered found totalFiles) is the same identification of another number of files, none of
which was skipped.
-/
def renumbered (found : Identification) (totalFiles : Nat) : Identification :=
  { found with totalFiles, skippedFiles := 0 }

/-- The numbers of files show in the numbers of an analysis and nowhere else. -/
theorem concluded_renumbered (catalog : Catalog) (options : AnalysisOptions)
    (found : Identification) (totalFiles : Nat) (summary : CallGraphSummary) (scanned : Scanned)
    : concluded catalog options (renumbered found totalFiles) summary scanned none
      = { concluded catalog options found summary scanned none with
          stats := { statsOf found summary scanned with totalFiles } } :=
  rfl

/-- Which callbacks there are, and which issues, does not depend on the call graph. -/
theorem concluded_sameCallbacks (catalog : Catalog) (options : AnalysisOptions)
    (found : Identification) (totalFiles : Nat) (summary other : CallGraphSummary)
    : SameCallbacks
        (concluded catalog options (renumbered found totalFiles) other
          (scannedIn catalog other found.records) none)
        (concluded catalog options found summary (scannedIn catalog summary found.records)
          none) where
  records := rfl
  roles := rfl
  entry := rfl
  issues := by
    simp only [concluded, Scanned.issues, scannedIn, List.flatMap_map, Scan.scanIn_issues]
    rfl
  coverage := rfl
  byUsage := rfl

/-- The flows depend on the call graph only by the way in which callbacks are scanned. -/
theorem concluded_flows (catalog : Catalog) (options : AnalysisOptions) (found : Identification)
    (totalFiles : Nat) {summary other : CallGraphSummary}
    (scanning : scanOptionsOf catalog other = scanOptionsOf catalog summary)
    : (concluded catalog options (renumbered found totalFiles) other
        (scannedIn catalog other found.records) none).flows
      = (concluded catalog options found summary
          (scannedIn catalog summary found.records) none).flows
      ∧ (concluded catalog options (renumbered found totalFiles) other
          (scannedIn catalog other found.records) none).snapshot
        = (concluded catalog options found summary
            (scannedIn catalog summary found.records) none).snapshot := by
  have same : scannedIn catalog other found.records = scannedIn catalog summary found.records := by
    rw [scannedIn, scanning, scannedIn]
  rw [same]
  exact ⟨rfl, rfl⟩

/-- How callbacks are scanned depends on the call graph only by whether there is one. -/
theorem scanOptionsOf_summaryIn (catalog : Catalog) (program : Program) (limit : Option Json)
    (records : List Record)
    : scanOptionsOf catalog (summaryIn program limit records)
      = ⟨catalog.weakSignals, [.text EntryMethod.key],
          (summaryIn program limit records).graph.isSome⟩ := by
  have strategy : (summaryIn program limit records).strategy = .syntheticEntry := by
    unfold summaryIn
    split <;> rfl
  rw [scanOptionsOf, strategy, if_pos rfl]

/-- The call graph is the same without the skipped files, if what the other files call is not found
in them.
Witness: the entry method calls methods of the files that are left.
-/
theorem summaryIn_withoutTests {files : List SourceFile}
    (calls : CallGraph.CallsAlike (.ofFiles files) (.ofFiles (withoutTests files)))
    {catalog : Catalog} {found : Identification}
    (identified
      : Identification.identifyIn (.ofFiles (withoutTests files)) catalog true = .ok found)
    (limit : Option Json)
    : summaryIn (.ofFiles (withoutTests files)) limit found.records
      = summaryIn (.ofFiles files) limit found.records := by
  have entered
      : ∀ method ∈ [EntryMethod.ofRecords found.records], ∀ callee ∈ method.calls,
          (Program.ofFiles files).method? callee
            = (Program.ofFiles (withoutTests files)).method? callee := by
    intro method given callee called
    rw [List.mem_singleton.mp given] at called
    obtain ⟨record, implemented, rfl⟩ := List.mem_map.mp called
    obtain ⟨method, declared, -, same⟩ :=
      Identification.identifyIn_method identified (List.mem_of_mem_filter implemented)
    rw [same]
    exact calls.methods method declared
  have starts
      : ∀ entry ∈ [EntryMethod.signature],
          CallGraph.MeansSame (.ofFiles files) (.ofFiles (withoutTests files))
            [EntryMethod.ofRecords found.records] entry := by
    intro entry given
    rw [List.mem_singleton.mp given]
    exact Or.inl (by simp [CallGraph.syntheticCalls?, EntryMethod.ofRecords])
  rw [summaryIn, ← calls.buildIn_eq entered limit starts, summaryIn]

/-- An analysis of callbacks that skips files of tests is blind to them up to the names that are
looked up in all files. If no class of the other files has its superclass in a skipped file, both
know the same callbacks; the flows are the same too unless only one of them has a call graph. If
nothing that the other files call is found in a skipped file either, the analyses are equal but for
the number of files.
-/
theorem run_withoutTests {host : Host} (obliging : host.Obliging) (accepting : host.Accepting)
    (patient : host.Patient) {files : List SourceFile} (catalog : Catalog)
    {options : AnalysisOptions} (fair : options.Fair)
    (lifecycle : options.scope = .lifecycle) (default : options.backend = none)
    (skipping : options.skipTestFiles.truthy = true)
    (inherits : InheritsAlike (.ofFiles files) (.ofFiles (withoutTests files)))
    (before elsewhere : Session)
    : (¬ catalog.PatternsAreTexts
        ∧ ∃ fault,
          (outcome (run host (.ofFiles files) catalog options) before).1 = .error fault
          ∧ (outcome (run host (.ofFiles (withoutTests files)) catalog options) elsewhere).1
            = .error fault)
      ∨ ∃ result after reduced afterwards,
          outcome (run host (.ofFiles files) catalog options) before = (.ok result, after)
          ∧ outcome (run host (.ofFiles (withoutTests files)) catalog options) elsewhere
            = (.ok reduced, afterwards)
          ∧ SameCallbacks reduced result
          ∧ (reduced.callGraph.graph.isSome = result.callGraph.graph.isSome
            → reduced.flows = result.flows ∧ reduced.snapshot = result.snapshot)
          ∧ (CallGraph.CallsAlike (.ofFiles files) (.ofFiles (withoutTests files))
            → reduced
              = { result with
                  stats := { result.stats with totalFiles := (withoutTests files).length } }) := by
  have same := Identification.identifyIn_withoutTests inherits catalog
  cases told : Identification.identifyIn (.ofFiles files) catalog true with
  | error fault =>
      have untexted := Identification.not_texts_of_identifyIn told
      rw [told] at same
      rw [← skipping] at told same
      exact Or.inl ⟨untexted, fault, run_unidentified obliging accepting options told before,
        run_unidentified obliging accepting options same elsewhere⟩
  | ok found =>
      rw [told] at same
      have remaining
          : Identification.identifyIn (.ofFiles (withoutTests files)) catalog true
            = .ok (renumbered found (withoutTests files).length) :=
        same
      have graphs (calls : CallGraph.CallsAlike (.ofFiles files) (.ofFiles (withoutTests files))) :=
        summaryIn_withoutTests calls remaining options.nodeLimit
      rw [← skipping] at told remaining
      obtain ⟨sweep, after, done, unswept⟩ :=
        run_identified obliging accepting patient fair default told before
      obtain ⟨swept, afterwards, also, none⟩ :=
        run_identified obliging accepting patient fair default remaining elsewhere
      rw [unswept lifecycle] at done
      rw [none lifecycle] at also
      refine Or.inr ⟨_, after, _, afterwards, done, also,
        concluded_sameCallbacks catalog options found _ _ _, ?_, ?_⟩
      · intro built
        have scanning
            : scanOptionsOf catalog
                (summaryIn (.ofFiles (withoutTests files)) options.nodeLimit found.records)
              = scanOptionsOf catalog
                  (summaryIn (.ofFiles files) options.nodeLimit found.records) := by
          rw [scanOptionsOf_summaryIn, scanOptionsOf_summaryIn]
          exact congrArg (ScanOptions.mk _ _) built
        exact concluded_flows catalog options found _ scanning
      · intro calls
        rw [graphs calls]
        exact concluded_renumbered catalog options found _ _ _

/-- A class that extends something foreign has no superclass in the program. -/
theorem superclass?_foreign {files : List SourceFile} {decl : ClassDecl}
    (foreign : ∀ other ∈ (Program.ofFiles files).classes, other.name ≠ decl.superclass)
    : (Program.ofFiles files).superclass? decl = none := by
  unfold Program.superclass?
  split
  · rfl
  · rw [class?_ofFiles, List.find?_eq_none]
    exact fun other member same => foreign other member (eq_of_beq same)

/-- (callbacksOnly) asks a single worker for the callbacks. -/
def callbacksOnly : AnalysisOptions where
  skipTestFiles := .bool true
  workers := 1
  nodeLimit := none
  scope := .lifecycle
  backend := none
  schedule := List.range

/-- (strangers) are two files of which neither refers to the other; the second one holds tests. -/
def strangers : List SourceFile :=
  [⟨"a.ets", [abilityNamed "A"]⟩, ⟨"test.ets", [abilityNamed "B"]⟩]

/-- The callback of the test does not show, nor does any other part of it. -/
theorem run_withoutTests_strangers
    : Host.willing.Obliging
      ∧ Host.willing.Accepting
      ∧ Host.willing.Patient
      ∧ InheritsAlike (.ofFiles strangers) (.ofFiles (withoutTests strangers))
      ∧ CallGraph.CallsAlike (.ofFiles strangers) (.ofFiles (withoutTests strangers))
      ∧ ∃ result after reduced afterwards,
          outcome (run .willing (.ofFiles strangers) .standard callbacksOnly) .fresh
            = (.ok result, after)
          ∧ outcome
              (run .willing (.ofFiles (withoutTests strangers)) .standard callbacksOnly) .fresh
            = (.ok reduced, afterwards)
          ∧ reduced = { result with stats := { result.stats with totalFiles := 1 } } := by
  have obliging := Host.willing_denies_nothing
  have accepting : Host.willing.Accepting := fun _ => rfl
  have patient : Host.willing.Patient := fun _ => rfl
  have inherits : InheritsAlike (.ofFiles strangers) (.ofFiles (withoutTests strangers)) := by
    intro decl member
    have only : decl = abilityNamed "A" := List.mem_singleton.mp member
    rw [only, superclass?_foreign (by decide), superclass?_foreign (by decide)]
  have silent : CallGraph.exprsOf (Program.ofFiles (withoutTests strangers)).files = [] := rfl
  have calls
      : CallGraph.CallsAlike (.ofFiles strangers) (.ofFiles (withoutTests strangers)) := by
    refine ⟨?_, by simp [silent], by simp [silent]⟩
    intro method member
    rw [List.mem_singleton.mp member, method?_ofFiles, method?_ofFiles]
    rfl
  have fair : callbacksOnly.Fair := fun tasks => .refl (List.range tasks)
  obtain ⟨result, after, reduced, afterwards, done, also, -, -, same⟩ :=
    (run_withoutTests obliging accepting patient .standard fair rfl rfl rfl inherits .fresh
      .fresh).resolve_left fun failed => failed.1 Catalog.standard_texts
  exact ⟨obliging, accepting, patient, inherits, calls, result, after, reduced, afterwards, done,
    also, same calls⟩

/-- An analysis that comes upon one class has the records of that class, and the call graph from
them on.
-/
theorem run_alone (program : Program) {decl : ClassDecl}
    (only : Identification.declarations .standard true program.files = decl.methods.map (decl, ·))
    : ∃ result after,
        outcome (run .willing program .standard callbacksOnly) .fresh = (.ok result, after)
        ∧ result.records
          = Identification.recordsAs .standard decl
              (Classification.roleIn program .standard decl)
        ∧ result.callGraph = summaryIn program none result.records := by
  have fair : callbacksOnly.Fair := fun tasks => .refl (List.range tasks)
  obtain ⟨found, identified, records⟩ :=
    Identification.identifyIn_declarations Catalog.standard_texts program true
  obtain ⟨_, after, done, -⟩ := run_identified Host.willing_denies_nothing (fun _ => rfl)
    (fun _ => rfl) fair rfl identified .fresh
  rw [only, List.filterMap_map] at records
  exact ⟨_, after, done, records, rfl⟩

-----------------------------------------------------------------------------------------
-- A superclass in a skipped file
-----------------------------------------------------------------------------------------

/-- (pupil) is a class with a callback that extends another class of the program. -/
def pupil : ClassDecl :=
  { abilityNamed "A" with superclass := "Base" }

/-- (tutored) are two files; the class of the first one extends an ability of the second one, which
holds tests.
-/
def tutored : List SourceFile :=
  [⟨"a.ets", [pupil]⟩, ⟨"test.ets", [Classification.declared "test.ets" "Base" "UIAbility"]⟩]

theorem roleIn_tutored
    : Classification.roleIn (.ofFiles tutored) .standard pupil = .entryContainer := by
  have inherits
      : (Program.ofFiles tutored).superclass? pupil
        = some (Classification.declared "test.ets" "Base" "UIAbility") := by
    have found
        : (Program.ofFiles tutored).class? "Base"
          = some (Classification.declared "test.ets" "Base" "UIAbility") := by
      rw [class?_ofFiles]
      rfl
    exact found
  have descends
      : Classification.descendsFrom Catalog.standard.abilityBases (.ofFiles tutored) pupil
        = true := by
    refine (Classification.descendsFrom_iff (ofFiles_indexed _) _ _).mpr
      ⟨_, .single ⟨inherits, by decide⟩, ?_⟩
    unfold Classification.NamesAbility
    decide
  rw [Classification.roleIn, descends]
  rfl

theorem roleIn_untutored
    : Classification.roleIn (.ofFiles (withoutTests tutored)) .standard pupil = .none := by
  have missing : (Program.ofFiles (withoutTests tutored)).superclass? pupil = none :=
    superclass?_foreign (by decide)
  have orphan : (Program.ofFiles (withoutTests tutored)).ancestors pupil = [] := by
    unfold Program.ancestors
    change (Program.ofFiles (withoutTests tutored)).ancestorsFrom ["A"] 1 pupil = []
    rw [Program.ancestorsFrom, missing]
  rw [Classification.roleIn, Classification.descendsFrom, orphan]
  rfl

/-- A class is an ability by a superclass in a skipped file, and has no role without that file. -/
theorem run_tutored_differs
    : ∃ result after reduced afterwards,
        outcome (run .willing (.ofFiles tutored) .standard callbacksOnly) .fresh
          = (.ok result, after)
        ∧ outcome (run .willing (.ofFiles (withoutTests tutored)) .standard callbacksOnly) .fresh
          = (.ok reduced, afterwards)
        ∧ result.records.length = 1
        ∧ reduced.records = [] := by
  have only
      : Identification.declarations .standard true (Program.ofFiles tutored).files
        = pupil.methods.map (pupil, ·) :=
    rfl
  obtain ⟨result, after, done, records, -⟩ := run_alone (.ofFiles tutored) only
  obtain ⟨reduced, afterwards, also, fewer, -⟩ := run_alone (.ofFiles (withoutTests tutored)) only
  refine ⟨result, after, reduced, afterwards, done, also, ?_, ?_⟩
  · rw [records, roleIn_tutored]
    rfl
  · rw [fewer, roleIn_untutored, Identification.recordsAs_none]

-----------------------------------------------------------------------------------------
-- A call of a method in a skipped file
-----------------------------------------------------------------------------------------

/-- (lent) is a method of a test. -/
def lent : Method where
  name := "load"
  className := "B"
  signature := "@test.ets: B.load()"
  filePath := "test.ets"
  line := 1
  column := 0
  cfg := none

/-- (borrower) is an ability with a callback that calls a method by the same name. -/
def borrower : ClassDecl :=
  let call : Expr := ⟨"invoke b.load()", .unresolved⟩
  let decl := abilityNamed "A"
  { decl with
    methods := decl.methods.map fun method =>
      { method with cfg := some ⟨[⟨0, [⟨"invoke b.load()", 2, 0, [call]⟩]⟩]⟩ } }

/-- (borrowing) are the files of both; that of the method holds tests. -/
def borrowing : List SourceFile :=
  [⟨"a.ets", [borrower]⟩,
    ⟨"test.ets", [{ Classification.declared "test.ets" "B" "" with methods := [lent] }]⟩]

theorem roleIn_borrower (program : Program)
    : Classification.roleIn program .standard borrower = .entryContainer := by
  have ability : Classification.extendsOne Catalog.standard.abilityBases borrower = true := rfl
  have descends
      : Classification.descendsFrom Catalog.standard.abilityBases program borrower = true := by
    rw [Classification.descendsFrom, List.any_cons, ability, Bool.true_or]
  rw [Classification.roleIn, descends]
  rfl

/-- (borrowerCall) is the signature of the callback. -/
def borrowerCall : Text := Method.defaultSignature "a.ets" "A" "onCreate"

/-- (namesakes files) are the signatures of all methods that have the name of the method. -/
def namesakes (files : List SourceFile) : List Text :=
  ((Program.methodsOf files).filter fun method => method.name == lent.name).map Method.signature

/-- The call may reach every method of the name. -/
theorem resolve_borrower (files : List SourceFile)
    : CallGraph.resolve (.ofFiles files) ⟨"invoke b.load()", .unresolved⟩
      = .ok (namesakes files) := by
  have plain : Signature.embedded? "invoke b.load()" = none := by decide +kernel
  have invokes : Text.contains "invoke b.load()" "invoke" = true := by decide +kernel
  have called : Invocation.called? "invoke b.load()" = some lent.name := by decide +kernel
  simp only [CallGraph.resolve, plain, CallGraph.resolveText, invokes, called, if_true,
    methodsNamed_ofFiles, namesakes]

/-- Where the callback is found, it calls all methods of the name. -/
theorem calleesIn_borrower {files : List SourceFile} {entry : SyntheticMethod}
    (other : borrowerCall ≠ entry.signature)
    (declared
      : (Program.methodsOf files).find? (fun method => method.signature == borrowerCall)
        = borrower.methods.head?)
    : CallGraph.calleesIn (.ofFiles files) [entry] borrowerCall = .ok (namesakes files) := by
  have unknown : CallGraph.syntheticCalls? [] borrowerCall = none := rfl
  rw [CallGraph.calleesIn_of_ne _ other, CallGraph.calleesIn, unknown, method?_ofFiles, declared]
  change (do
    let targets ← CallGraph.resolve (.ofFiles files) ⟨"invoke b.load()", .unresolved⟩
    return [targets].flatten) = _
  rw [resolve_borrower]
  exact congrArg Except.ok (List.append_nil _)

/-- The graph from the callback on has all methods of the name, and if there are none it has nothing
but the callback and the virtual entry method.
-/
theorem nodes_borrower {files : List SourceFile} {records : List Record}
    (typed : ∀ method ∈ Program.methodsOf files, CallGraph.CallsTyped method)
    (declared
      : (Program.methodsOf files).find? (fun method => method.signature == borrowerCall)
        = borrower.methods.head?)
    (called : EntryMethod.callsOf records = [borrowerCall])
    : ∃ graph,
        (summaryIn (.ofFiles files) none records).graph = some graph
        ∧ (∀ node ∈ namesakes files, node ∈ graph.nodes)
        ∧ (namesakes files = []
          → ∀ node ∈ graph.nodes, node ∈ [EntryMethod.signature, borrowerCall]) := by
  choose callees told using CallGraph.calleesIn_typed typed [EntryMethod.ofRecords records]
  obtain ⟨graph, built, reachable⟩ := CallGraph.buildIn_reachable told [EntryMethod.signature]
  have entry : callees EntryMethod.signature = [borrowerCall] := by
    have known := CallGraph.calleesIn_signature (.ofFiles files) (EntryMethod.ofRecords records)
    exact (Except.ok.inj ((told _).symm.trans known)).trans called
  have callback : callees borrowerCall = namesakes files := by
    have other : borrowerCall ≠ EntryMethod.signature := by decide
    exact Except.ok.inj ((told _).symm.trans (calleesIn_borrower other declared))
  have closed (none : namesakes files = [])
      : CallGraph.Closed callees [EntryMethod.signature]
          {node | node ∈ [EntryMethod.signature, borrowerCall]} := by
    refine ⟨List.forall_mem_singleton.mpr List.mem_cons_self, fun caller listed callee calls => ?_⟩
    rcases List.mem_pair.mp listed with rfl | rfl
    · exact List.mem_cons_of_mem _ (entry ▸ calls)
    · rw [callback, none] at calls
      cases calls
  refine ⟨graph, by rw [summaryIn, built], fun node named => ?_, fun none node member => ?_⟩
  · have begun : CallGraph.Reachable callees [EntryMethod.signature] borrowerCall :=
      .call (.entry List.mem_cons_self) (entry ▸ List.mem_cons_self)
    exact (reachable.mem_nodes node).mpr (.call begun (callback ▸ named))
  · exact ((reachable.mem_nodes node).mp member).mem_closed (closed none)

/-- A callback calls a method of a skipped file, and calls nothing without that file, although no
class has its superclass in it.
-/
theorem run_borrowing_differs
    : InheritsAlike (.ofFiles borrowing) (.ofFiles (withoutTests borrowing))
      ∧ ∃ result after reduced afterwards whole part,
          outcome (run .willing (.ofFiles borrowing) .standard callbacksOnly) .fresh
            = (.ok result, after)
          ∧ outcome
              (run .willing (.ofFiles (withoutTests borrowing)) .standard callbacksOnly) .fresh
            = (.ok reduced, afterwards)
          ∧ result.callGraph.graph = some whole
          ∧ reduced.callGraph.graph = some part
          ∧ lent.signature ∈ whole.nodes
          ∧ lent.signature ∉ part.nodes := by
  have inherits : InheritsAlike (.ofFiles borrowing) (.ofFiles (withoutTests borrowing)) := by
    intro decl member
    have only : decl = borrower := List.mem_singleton.mp member
    rw [only, superclass?_foreign (by decide), superclass?_foreign (by decide)]
  have typed : ∀ method ∈ Program.methodsOf borrowing, CallGraph.CallsTyped method := by
    simp [Program.methodsOf, Program.classesOf, borrowing, borrower, abilityNamed, lent,
      CallGraph.CallsTyped, Cfg.stmts]
  have inside
      : Program.methodsOf borrowing = Program.methodsOf (withoutTests borrowing) ++ [lent] :=
    rfl
  have fewer
      : ∀ method ∈ Program.methodsOf (withoutTests borrowing), CallGraph.CallsTyped method :=
    fun method member => typed method (inside ▸ List.mem_append_left _ member)
  have only
      : Identification.declarations .standard true (Program.ofFiles borrowing).files
        = borrower.methods.map (borrower, ·) :=
    rfl
  obtain ⟨result, after, done, records, graph⟩ := run_alone (.ofFiles borrowing) only
  obtain ⟨reduced, afterwards, also, same, remains⟩ :=
    run_alone (.ofFiles (withoutTests borrowing)) only
  rw [roleIn_borrower] at records same
  have called {found : List Record}
      (records : found = Identification.recordsAs .standard borrower .entryContainer)
      : EntryMethod.callsOf found = [borrowerCall] := by
    rw [records]
    rfl
  obtain ⟨whole, built, has, -⟩ := nodes_borrower typed rfl (called records)
  obtain ⟨part, left, -, bare⟩ := nodes_borrower fewer rfl (called same)
  refine ⟨inherits, result, after, reduced, afterwards, whole, part, done, also, graph ▸ built,
    remains ▸ left, has _ List.mem_cons_self, fun listed => ?_⟩
  exact absurd (bare rfl _ listed) (by decide)

end ArkLifecycle.Analysis
