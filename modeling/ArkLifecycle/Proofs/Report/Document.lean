import ArkLifecycle.Json.Access
import ArkLifecycle.Proofs.Session.Inquiry
import ArkLifecycle.Report

/-! Reports as documents.

What a report says about the use of the catalog, its rankings, its advice and its counts is read
from its document, part by part. Nothing of this is lost, whatever follows in the document.
-/

namespace ArkLifecycle

-----------------------------------------------------------------------------------------
-- Reading parts
-----------------------------------------------------------------------------------------

namespace Json

/-- (readText v) is the text that `v` is. -/
def readText : Json → Except Fault Text
  | .text value => .ok value
  | v => .error (.notAText v.shape)

/-- (readCount v) is the natural number that `v` is. -/
def readCount : Json → Except Fault Nat
  | .int (.ofNat n) => .ok n
  | v => .error (.notNumeric v.shape)

/-- (readNumber v) is the floating-point number that `v` is. -/
def readNumber : Json → Except Fault Binary64
  | .float value => .ok value
  | v => .error (.notNumeric v.shape)

/-- (readKind v) is the kind that `v` names. -/
def readKind (v : Json) : Except Fault Kind :=
  match Kind.ofJson? v with
  | some kind => .ok kind
  | none => .error (.notAName v.shape)

/-- (readSeverity v) is the severity that `v` names. -/
def readSeverity (v : Json) : Except Fault Severity :=
  match Severity.all.find? fun severity => v.isText severity.name with
  | some severity => .ok severity
  | none => .error (.notAName v.shape)

/-- (readList read v) reads all parts of a list. -/
def readList {α : Type} (read : Json → Except Fault α) : Json → Except Fault (List α)
  | .array items => items.mapM read
  | v => .error (.notIterable v.shape)

/-- (readEntries read v) reads all fields of a mapping. -/
def readEntries {α : Type} (read : Scalar × Json → Except Fault α) : Json → Except Fault (List α)
  | .object fields => fields.mapM read
  | v => .error (.notIterable v.shape)

end Json

open Json

theorem readKind_name (kind : Kind) : readKind (.text kind.name) = .ok kind := by
  cases kind <;> rfl

theorem readSeverity_name (severity : Severity)
    : readSeverity (.text severity.name) = .ok severity := by
  cases severity <;> rfl

-----------------------------------------------------------------------------------------
-- The use of one kind
-----------------------------------------------------------------------------------------

/-- What a report says about a name that is used. -/
structure UsedEntry where
  name : Scalar
  usageCount : Nat
  implementedCount : Nat
  classes : List Text

/-- What a report says about the use of one kind. -/
structure KindEntry where
  kind : Kind
  summary : CoverageSummary
  used : List UsedEntry
  unused : List Scalar

/-- (CoverageStat.entry stat) is what is said about a name that is used. -/
def CoverageStat.entry (stat : CoverageStat) : UsedEntry where
  name := stat.name
  usageCount := stat.usageCount
  implementedCount := stat.implementedCount
  classes := stat.classes

/-- (KindCoverage.entry coverage) is what is said about the use of one kind. -/
def KindCoverage.entry (coverage : KindCoverage) : KindEntry where
  kind := coverage.kind
  summary := coverage.summary
  used := coverage.used.map CoverageStat.entry
  unused := coverage.unused

/-- (UsedEntry.read v) reads what is said about a name that is used. -/
def UsedEntry.read (v : Json) : Except Fault UsedEntry := do
  let name ← (← v.part "name").name?
  let usageCount ← readCount (← v.part "usage_count")
  let implementedCount ← readCount (← v.part "implemented_count")
  let classes ← readList readText (← v.part "classes")
  return { name, usageCount, implementedCount, classes }

/-- (CoverageSummary.read v) reads the summary of a kind. -/
def CoverageSummary.read (v : Json) : Except Fault CoverageSummary := do
  let defined ← readCount (← v.part "defined")
  let used ← readCount (← v.part "used")
  let usageCount ← readCount (← v.part "usage_count")
  let percent ← readNumber (← v.part "coverage_percent")
  return { defined, used, usageCount, percent }

/-- (KindEntry.read field) reads what is said about a kind. -/
def KindEntry.read (field : Scalar × Json) : Except Fault KindEntry := do
  let kind ← readKind (.scalar field.1)
  let summary ← CoverageSummary.read field.2
  let used ← readList UsedEntry.read (← field.2.part "used_methods")
  let unused ← readList name? (← field.2.part "unused_methods")
  return { kind, summary, used, unused }

theorem UsedEntry.read_usedJson (stat : CoverageStat)
    : UsedEntry.read stat.usedJson = .ok stat.entry := by
  have classes : (stat.classes.map Json.text).mapM readText = .ok (stat.classes.map id) :=
    mapM_map_eq_ok fun _ _ => rfl
  change (do
    let classes ← (stat.classes.map Json.text).mapM readText
    return { stat.entry with classes }) = _
  rw [classes, List.map_id]
  rfl

/-- What is said about the use of a kind is read from its field. -/
theorem KindEntry.read_toJson (coverage : KindCoverage)
    : KindEntry.read (coverage.kind.name, coverage.toJson) = .ok coverage.entry := by
  have used
      : (coverage.used.map CoverageStat.usedJson).mapM UsedEntry.read
        = .ok (coverage.used.map CoverageStat.entry) :=
    mapM_map_eq_ok fun stat _ => UsedEntry.read_usedJson stat
  have unused : (coverage.unused.map Json.scalar).mapM name? = .ok (coverage.unused.map id) :=
    mapM_map_eq_ok fun _ _ => rfl
  change (do
    let kind ← readKind (.text coverage.kind.name)
    let used ← (coverage.used.map CoverageStat.usedJson).mapM UsedEntry.read
    let unused ← (coverage.unused.map Json.scalar).mapM name?
    return { coverage.entry with kind, used, unused }) = _
  rw [readKind_name, used, unused, List.map_id]
  rfl

-----------------------------------------------------------------------------------------
-- Whole reports
-----------------------------------------------------------------------------------------

/-- What a report says about the use of the catalog, the methods with data flows and the issues. -/
structure ReportEntry where
  coverage : List KindEntry
  byUsage : List (Kind × Text × Nat)
  recommendations : List Recommendation
  flowCount : Nat
  topMethods : List (Text × Nat)
  depth : ChainDepth
  issueCount : Nat
  bySeverity : List (Severity × Nat)

/-- (Report.entry report) is what a report says. -/
def Report.entry (report : Report) : ReportEntry where
  coverage := report.coverage.map KindCoverage.entry
  byUsage := report.analysis.snapshot.byUsage
  recommendations := report.recommendations
  flowCount := report.analysis.flows.length
  topMethods := report.topMethods
  depth := report.depth
  issueCount := report.analysis.issues.length
  bySeverity := report.bySeverity

namespace ReportEntry

/-- (readUsage v) reads how often a callback of a kind is used. -/
def readUsage (v : Json) : Except Fault (Kind × Text × Nat) := do
  let kind ← readKind (← v.part "kind")
  let name ← readText (← v.part "method")
  return (kind, name, ← readCount (← v.part "usage_count"))

/-- (readAdvice v) reads a recommendation. -/
def readAdvice (v : Json) : Except Fault Recommendation := do
  let name ← readText (← v.part "name")
  let kind ← readKind (← v.part "kind")
  let reason ← readText (← v.part "reason")
  return { name, kind, reason }

/-- (readFlowCount v) reads how many data flows a method has. -/
def readFlowCount (v : Json) : Except Fault (Text × Nat) := do
  return (← readText (← v.part "method"), ← readCount (← v.part "count"))

/-- (readSeverityCount field) reads how many issues of a severity there are. -/
def readSeverityCount (field : Scalar × Json) : Except Fault (Severity × Nat) := do
  return (← readSeverity (.scalar field.1), ← readCount field.2)

/-- (read document) reads a report. -/
def read (document : Json) : Except Fault ReportEntry := do
  let coverage ← readEntries KindEntry.read (← document.part "coverage")
  let byUsage ← readList readUsage (← document.part "ranked_by_usage")
  let recommendations ← readList readAdvice (← document.part "recommendations")
  let flows ← document.part "data_flow"
  let flowCount ← readCount (← flows.part "total")
  let topMethods ← readList readFlowCount (← flows.part "top_methods")
  let deepest ← readCount (← flows.part "max_depth")
  let average ← readNumber (← flows.part "avg_depth")
  let issues ← document.part "undefined_issues"
  let issueCount ← readCount (← issues.part "total")
  let bySeverity ← readEntries readSeverityCount (← issues.part "by_severity")
  return {
    coverage, byUsage, recommendations, flowCount, topMethods, depth := ⟨deepest, average⟩
    issueCount, bySeverity }

theorem readUsage_usageJson (usage : Kind × Text × Nat)
    : readUsage (Report.usageJson usage) = .ok usage := by
  change (do return (← readKind (.text usage.1.name), usage.2)) = _
  rw [readKind_name]
  rfl

theorem readAdvice_adviceJson (advice : Recommendation)
    : readAdvice (Report.adviceJson advice) = .ok advice := by
  change (do return { advice with kind := ← readKind (.text advice.kind.name) }) = _
  rw [readKind_name]
  rfl

theorem readSeverityCount_field (counted : Severity × Nat)
    : readSeverityCount (counted.1.name, .ofNat counted.2) = .ok counted := by
  change (do return (← readSeverity (.text counted.1.name), counted.2)) = _
  rw [readSeverity_name]
  rfl

/-- What a report says is read from its document, whatever fields follow. -/
theorem read_fields (report : Report) (more : Json.Fields)
    : read (.object (report.fields ++ more)) = .ok report.entry := by
  have coverage
      : (report.coverage.map fun coverage : KindCoverage =>
            (Scalar.text coverage.kind.name, coverage.toJson)).mapM KindEntry.read
        = .ok (report.coverage.map KindCoverage.entry) :=
    mapM_map_eq_ok fun coverage _ => KindEntry.read_toJson coverage
  have byUsage
      : (report.analysis.snapshot.byUsage.map Report.usageJson).mapM readUsage
        = .ok (report.analysis.snapshot.byUsage.map id) :=
    mapM_map_eq_ok fun usage _ => readUsage_usageJson usage
  have recommendations
      : (report.recommendations.map Report.adviceJson).mapM readAdvice
        = .ok (report.recommendations.map id) :=
    mapM_map_eq_ok fun advice _ => readAdvice_adviceJson advice
  have topMethods
      : (report.topMethods.map Report.flowCountJson).mapM readFlowCount
        = .ok (report.topMethods.map id) :=
    mapM_map_eq_ok fun _ _ => rfl
  have bySeverity
      : (report.bySeverity.map fun counted : Severity × Nat =>
            (Scalar.text counted.1.name, Json.ofNat counted.2)).mapM readSeverityCount
        = .ok (report.bySeverity.map id) :=
    mapM_map_eq_ok fun counted _ => readSeverityCount_field counted
  rw [List.map_id] at byUsage recommendations topMethods bySeverity
  change (do
    let coverage ← (report.coverage.map fun coverage : KindCoverage =>
      (Scalar.text coverage.kind.name, coverage.toJson)).mapM KindEntry.read
    let byUsage ← (report.analysis.snapshot.byUsage.map Report.usageJson).mapM readUsage
    let recommendations ← (report.recommendations.map Report.adviceJson).mapM readAdvice
    let topMethods ← (report.topMethods.map Report.flowCountJson).mapM readFlowCount
    let bySeverity ← (report.bySeverity.map fun counted : Severity × Nat =>
      (Scalar.text counted.1.name, Json.ofNat counted.2)).mapM readSeverityCount
    return { report.entry with
      coverage, byUsage, recommendations, topMethods, bySeverity }) = _
  rw [coverage, byUsage, recommendations, topMethods, bySeverity]
  rfl

end ReportEntry

end ArkLifecycle
