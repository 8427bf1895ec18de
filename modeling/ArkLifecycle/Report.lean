import ArkLifecycle.Analysis

/-! The report of an analysis.

It gives the numbers of the analysis, how much of the catalog is used, what is worth
implementing, the methods with the most data flows, the issues by severity, and the callbacks
themselves.
-/

namespace ArkLifecycle

/-- How long call chains are. -/
structure ChainDepth where
  deepest : Nat
  average : Binary64
deriving DecidableEq, Repr, Inhabited

/-- The use of one kind of callbacks; the used names are ranked by their number of records. -/
structure KindCoverage where
  kind : Kind
  summary : CoverageSummary
  used : List CoverageStat
  unused : List Scalar
deriving Repr, Inhabited

/-- The report of an analysis. -/
structure Report where
  analysis : Analysis
  catalog : Option Catalog
  coverage : List KindCoverage
  recommendations : List Recommendation
  topMethods : List (Text × Nat)
  depth : ChainDepth
  bySeverity : List (Severity × Nat)
deriving Inhabited

namespace ChainDepth

/-- (ofFlows flows) is the greatest and the average length of the call chains; the average has two
decimal places.
-/
def ofFlows {κ ℓ : Type} (flows : List (DataFlow κ ℓ)) : ChainDepth :=
  let lengths := flows.map fun flow => flow.chain.length
  if lengths.isEmpty then
    ⟨0, .zero⟩
  else
    let total := lengths.foldr (· + ·) 0
    ⟨lengths.foldl max 0, (Binary64.ofRatio false total lengths.length).roundTo 2⟩

/-- (fields depth) are the fields of the depth in reports. -/
def fields (depth : ChainDepth) : Json.Fields :=
  [("max_depth", .ofNat depth.deepest), ("avg_depth", .float depth.average)]

end ChainDepth

/-- (CoverageStat.usedJson stat) is what a report says about a name that is used. -/
def CoverageStat.usedJson (stat : CoverageStat) : Json :=
  .object [
    ("name", .scalar stat.name),
    ("usage_count", .ofNat stat.usageCount),
    ("implemented_count", .ofNat stat.implementedCount),
    ("classes", Json.texts stat.classes)]

/-- (KindCoverage.toJson coverage) writes the use of one kind. -/
def KindCoverage.toJson (coverage : KindCoverage) : Json :=
  let methods : Json.Fields := [
    ("used_methods", .array (coverage.used.map CoverageStat.usedJson)),
    ("unused_methods", .array (coverage.unused.map Json.scalar))]
  .object (coverage.summary.fields ++ methods)

namespace Report

/-- (adviceJson advice) writes a recommendation. -/
def adviceJson (advice : Recommendation) : Json :=
  .object [
    ("name", .text advice.name),
    ("kind", .text advice.kind.name),
    ("reason", .text advice.reason)]

/-- (usageJson usage) tells how often a callback of a kind is used. -/
def usageJson (usage : Kind × Text × Nat) : Json :=
  .object [
    ("kind", .text usage.1.name),
    ("method", .text usage.2.1),
    ("usage_count", .ofNat usage.2.2)]

/-- (flowCountJson counted) tells how many data flows a method has. -/
def flowCountJson (counted : Text × Nat) : Json :=
  .object [("method", .text counted.1), ("count", .ofNat counted.2)]

/-- (topCount) is how many methods with the most data flows are listed. -/
def topCount : Nat := 10

/-- (kindCoverage snapshot kind) is the use of one kind. -/
def kindCoverage (snapshot : Snapshot) (kind : Kind) : KindCoverage :=
  { kind
    summary := snapshot.summary kind
    used := rankBy CoverageStat.usageCount (snapshot.used kind)
    unused := snapshot.unused kind }

/-- (isMissing snapshot advice) holds when the catalog lists the callback and the program does not
use it.
-/
def isMissing (snapshot : Snapshot) (advice : Recommendation) : Bool :=
  match snapshot.stat advice.kind (.text advice.name) with
  | .ok stat => !stat.isUsed
  | .error _ => false

/-- (adviceFor catalog snapshot) are the recommendations that the program has not followed. -/
def adviceFor (catalog : Option Catalog) (snapshot : Snapshot) : List Recommendation :=
  match catalog with
  | some catalog => catalog.recommendations.filter (isMissing snapshot)
  | none => []

/-- (countSeverities issues) counts the issues of each severity. -/
def countSeverities (issues : List RiskIssue) : List (Severity × Nat) :=
  Severity.all.map fun severity =>
    (severity, (issues.filter fun issue => issue.severity = severity).length)

/-- (of analysis catalog) is the report of an analysis. -/
def of (analysis : Analysis) (catalog : Option Catalog) : Report :=
  { analysis
    catalog
    coverage :=
      (Kind.all.filter fun kind => analysis.snapshot.coverage.any fun entry => entry.1 = kind).map
        (kindCoverage analysis.snapshot)
    recommendations := adviceFor catalog analysis.snapshot
    topMethods := analysis.snapshot.byFlows.take topCount
    depth := .ofFlows analysis.flows
    bySeverity := countSeverities analysis.issues }

/-- (fields report) are the fields of a report in order. -/
def fields (report : Report) : Json.Fields :=
  let analysis := report.analysis
  let flows : Json.Fields := [
    ("status", .text analysis.flowStatus),
    ("total", .ofNat analysis.flows.length),
    ("top_methods", .array (report.topMethods.map flowCountJson))]
  [("catalog_version", .text analysis.catalogVersion),
    ("catalog", Json.ofOption Catalog.describe report.catalog),
    ("scope", .text analysis.scope.name),
    ("stats", analysis.stats.toJson),
    ("callgraph", .object analysis.callGraph.fields),
    ("synthetic_entry", .object [
      ("signature", .text analysis.entry.signature),
      ("call_count", .ofNat analysis.entry.calls.length)]),
    ("coverage", .object (report.coverage.map fun coverage =>
      (coverage.kind.name, coverage.toJson))),
    ("ranked_by_usage", .array (analysis.snapshot.byUsage.map usageJson)),
    ("recommendations", .array (report.recommendations.map adviceJson)),
    ("data_flow", .object (flows ++ report.depth.fields)),
    ("undefined_issues", .object [
      ("total", .ofNat analysis.issues.length),
      ("by_severity", .object (report.bySeverity.map fun (severity, count) =>
        (severity.name, .ofNat count))),
      ("items", .array (analysis.issues.map RiskIssue.toJson))]),
    ("project_sweep", Json.ofOption Sweep.toJson analysis.sweep),
    ("lifecycle_methods", .array (analysis.records.map Record.toJson)),
    ("cancelled", .bool analysis.cancelled),
    ("errors", .array (analysis.errors.map StageError.toJson))]

/-- (toJson report) writes a report. -/
def toJson (report : Report) : Json :=
  .object report.fields

end Report

end ArkLifecycle
