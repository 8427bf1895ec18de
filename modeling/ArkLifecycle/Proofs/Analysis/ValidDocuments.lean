import ArkLifecycle.Proofs.Analysis.Unhindered
import ArkLifecycle.Proofs.Export.Drawing
import ArkLifecycle.Proofs.Export.Grouping

/-! Analyses of valid documents.

A document that agrees with the schema is read, analyzed and exported without a fault. The handlers
that note an error and go on are never needed: there is a call graph from the virtual entry method
on, and no callback fails to be scanned.
-/

namespace ArkLifecycle.Analysis

open Activity

/-- Nothing went wrong in the analysis of a document, and all of it can be exported. The report and
the document of flows are functions of the analysis. The graph of callbacks is drawn. If the
document was written as a text, the line of every flow can be shown, and the text of flows is
written.
-/
structure Unfailing (document : Json) (analysis : Analysis) : Prop where
  callGraph : analysis.callGraph.error = none
  strategy : analysis.callGraph.strategy = .syntheticEntry
  status : analysis.flowStatus = "ok"
  errors : analysis.errors = []
  drawn : ∃ written, Export.dot analysis.records = .ok written
  shown
    : ∀ written,
        Json.parse written = .ok document
        → ∀ flow ∈ analysis.flows, Text.ofInt flow.line = .ok (toString flow.line)
  listed
    : ∀ written,
        Json.parse written = .ok document
        → ∀ timestamp, ∃ text, Export.markdown analysis.listing timestamp = .ok text

/-- The flows that there are to find have the lines of statements. -/
theorem flow_line {options : ScanOptions} {record : Record} {flow : DataFlow}
    (member : flow ∈ (Scan.scanIn options record).flows)
    : ∃ method ∈ record.method, ∃ cfg ∈ method.cfg, ∃ stmt ∈ cfg.stmts, flow.line = stmt.line := by
  unfold Scan.scanIn at member
  cases body : Scan.bodyIn record with
  | none =>
      rw [body] at member
      cases member
  | some cfg =>
      rw [body] at member
      have flows : flow ∈ cfg.stmts.filterMap (Scan.flowOf options.lead record) := by
        simp only [Scan.scanBody] at member
        split at member
        · exact member
        · cases member
      obtain ⟨stmt, inside, found⟩ := List.mem_filterMap.mp flows
      obtain ⟨_, -, rfl⟩ := Option.map_eq_some_iff.mp found
      unfold Scan.bodyIn at body
      split at body
      · obtain ⟨given, -⟩ := Option.filter_eq_some_iff.mp body
        obtain ⟨method, recorded, written⟩ := Option.bind_eq_some_iff.mp given
        exact ⟨method, recorded, cfg, written, stmt, inside, rfl⟩
      · cases body

/-- The call graph of a program with typed calls is built from the virtual entry method on. -/
theorem summaryIn_typed {files : List SourceFile}
    (typed : ∀ method ∈ Program.methodsOf files, CallGraph.CallsTyped method)
    (bound : Option Int) (records : List Record)
    : ∃ graph,
        summaryIn (.ofFiles files) (bound.map Json.int) records
          = ⟨some graph, .syntheticEntry, [EntryMethod.signature], none⟩ := by
  obtain ⟨graph, built⟩ := CallGraph.buildIn_typed typed [EntryMethod.ofRecords records] bound
    [EntryMethod.signature]
  exact ⟨graph, by rw [summaryIn, built]⟩

/-- The flows from callbacks that are fit have lines that can be shown, if the document was written
as a text.
-/
theorem showable_of_fit {document : Json} {records : List Record}
    (fit : ∀ record ∈ records, ∃ method, record.method = some method ∧ method.Fit document)
    {options : ScanOptions} {written : String} (parsed : Json.parse written = .ok document)
    : ∀ flow ∈ (records.map (Scan.scanIn options)).flatMap ScanResult.flows,
        Showable flow.line := by
  intro flow member
  obtain ⟨result, scanned, inside⟩ := List.mem_flatMap.mp member
  obtain ⟨record, listed, rfl⟩ := List.mem_map.mp scanned
  obtain ⟨method, recorded, cfg, body, stmt, here, same⟩ := flow_line inside
  obtain ⟨_, given, fit⟩ := fit record listed
  cases given.symm.trans recorded
  rw [same]
  exact (fit cfg body stmt here).line (Json.parse_moderate parsed)

/-- What is concluded from callbacks that are fit can be exported. -/
theorem concluded_unfailing {document : Json} {found : Identification}
    (fit
      : ∀ record ∈ found.records,
          ∃ method, record.method = some method ∧ method.Fit document)
    (catalog : Catalog) (options : AnalysisOptions) (graph : CallGraph) (roots : List Text)
    (sweep : Option Sweep)
    : Unfailing document
        (concluded catalog options found ⟨some graph, .syntheticEntry, roots, none⟩
          (scannedIn catalog ⟨some graph, .syntheticEntry, roots, none⟩ found.records)
          sweep) where
  callGraph := rfl
  strategy := rfl
  status := rfl
  errors := rfl
  drawn := by
    refine Export.dot_typed fun record member method recorded cfg body stmt inside => ?_
    obtain ⟨_, given, fit⟩ := fit record member
    cases given.symm.trans recorded
    exact (fit cfg body stmt inside).typed
  shown written parsed flow member := (showable_of_fit fit parsed flow member).ofInt_eq
  listed written parsed timestamp := Export.markdown_eq_ok (showable_of_fit fit parsed) timestamp

/-- A document that agrees with the schema is read, and every analysis of it by a catalog of the
library succeeds without errors and can be exported, whatever is in scope, however many workers
there are and whatever bounds the call graph. No class is left out because of a fault: all
methods of examined classes have the records that their roles decide.
-/
theorem run_valid {host : Host} (obliging : host.Obliging) (accepting : host.Accepting)
    (patient : host.Patient) {document : Json}
    (valid : Schema.validate Program.schemaFile Program.schema document = .ok ())
    : ∃ program,
        Program.read true document = .ok program
        ∧ ∀ catalog ∈ Catalog.versions,
            ∀ options : AnalysisOptions,
              options.Fair
              → options.backend = none
              → ∀ bound : Option Int,
                  options.nodeLimit = bound.map Json.int
                  → ∀ before,
                      ∃ analysis after,
                        outcome (run host program catalog options) before = (.ok analysis, after)
                        ∧ analysis.records
                          = (Identification.declarations catalog options.skipTestFiles.truthy
                              program.files).filterMap
                              (Identification.recordAt program catalog)
                        ∧ Unfailing document analysis := by
  obtain ⟨files, read, fit⟩ := Program.read_valid valid
  refine ⟨.ofFiles files, read, ?_⟩
  intro catalog builtin options fair default bound limited before
  obtain ⟨found, identified, records⟩ := Identification.identifyIn_declarations
    (Identification.versions_texts builtin) (.ofFiles files) options.skipTestFiles.truthy
  obtain ⟨sweep, after, done, -⟩ :=
    run_identified obliging accepting patient fair default identified before
  have typed : ∀ method ∈ Program.methodsOf files, CallGraph.CallsTyped method :=
    fun method member cfg body stmt inside => (fit method member cfg body stmt inside).typed
  have recorded
      : ∀ record ∈ found.records,
          ∃ method, record.method = some method ∧ method.Fit document := by
    intro record member
    obtain ⟨method, declared, given, -⟩ := Identification.identifyIn_method identified member
    refine ⟨method, given, fit method ?_⟩
    simpa only [Program.ofFiles, Program.methodsOf_settle] using declared
  obtain ⟨graph, built⟩ := summaryIn_typed typed bound found.records
  rw [limited, built] at done
  exact ⟨_, after, done, records, concluded_unfailing recorded catalog options graph _ sweep⟩

/-- (exported) is a document with a line that is a floating-point number and a callee that is null.
-/
def exported : Json :=
  .object [("files", .array [.object [
    ("path", .text "a.ets"),
    ("classes", .array [.object [
      ("name", .text "A"),
      ("superclass", .text "UIAbility"),
      ("methods", .array [.object [
        ("name", .text "onCreate"),
        ("cfg", .object [("blocks", .array [.object [
          ("stmts", .array [.object [
            ("text", .text "this.f()"),
            ("line", .float (.finite false 1 1)),
            ("exprs", .array [.object [("text", .text "f()"), ("callee", .null)]])]])]])])]])]])]])]

theorem exported_valid : Schema.validate Program.schemaFile Program.schema exported = .ok () :=
  (Schema.validate_ok_iff _ _ _).mpr ((Schema.checkAll_eq_nil_iff [] _ _).mp rfl)

/-- The document is analyzed as a whole project, by two workers, and without room for a call graph.
-/
theorem run_valid_exported
    : Host.willing.Obliging
      ∧ Host.willing.Accepting
      ∧ Host.willing.Patient
      ∧ Schema.validate Program.schemaFile Program.schema exported = .ok ()
      ∧ ∃ program analysis after,
          Program.read true exported = .ok program
          ∧ outcome
              (run .willing program .standard
                ⟨.bool true, 2, some (.int 0), .project, none, List.range⟩)
              .fresh
            = (.ok analysis, after)
          ∧ Unfailing exported analysis := by
  have obliging := Host.willing_denies_nothing
  have accepting : Host.willing.Accepting := fun _ => rfl
  have patient : Host.willing.Patient := fun _ => rfl
  obtain ⟨program, read, runs⟩ := run_valid obliging accepting patient exported_valid
  obtain ⟨analysis, after, done, -, unfailing⟩ := runs .standard
    (by simp [Catalog.versions, Catalog.standard])
    ⟨.bool true, 2, some (.int 0), .project, none, List.range⟩
    (fun tasks => .refl (List.range tasks)) rfl (some 0) rfl .fresh
  exact ⟨obliging, accepting, patient, exported_valid, program, analysis, after, read, done,
    unfailing⟩

end ArkLifecycle.Analysis
