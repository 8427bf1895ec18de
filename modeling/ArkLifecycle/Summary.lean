import ArkLifecycle.Json.Access
import ArkLifecycle.Risk

/-! The summary of a report, as it is printed.

The report may come from anywhere; what is missing in it is shown as zero or `None`.
-/

namespace ArkLifecycle.Summary

/-- (rule) divides the summary from what stands around it. -/
def rule : Text := Text.ofList (List.replicate 60 '=')

/-- (shown v name default) shows a field of a part of the report. -/
def shown (v : Json) (name : Text) (default : Json) : Except Fault Text :=
  do (← v.fieldD name default).display

/-- (count v name) shows a field that counts something. -/
def count (v : Json) (name : Text) : Except Fault Text :=
  shown v name (.int 0)

/-- (section report name) is a part of the report, empty when it is missing. -/
def sectionOf (report : Json) (name : Text) : Except Fault Json :=
  report.fieldD name (.object [])

/-- (heading report stats) are the lines up to the call graph. -/
def heading (report stats callGraph : Json) : Except Fault (List Text) := do
  return [rule,
    "Lifecycle analysis (" ++ (← shown report "catalog_version" .null) ++ ")",
    rule,
    "Files:              " ++ (← count stats "total_files"),
    "Classes:            " ++ (← count stats "total_classes"),
    "Methods:            " ++ (← count stats "total_methods"),
    "Ability classes:    " ++ (← count stats "ability_classes"),
    "Component classes:  " ++ (← count stats "component_classes"),
    "Lifecycle methods:  " ++ (← count stats "lifecycle_methods"),
    "Analyzed methods:   " ++ (← count stats "analyzed_methods"),
    "",
    "Call graph:         " ++ (← count callGraph "node_count") ++ " nodes, "
      ++ (← count callGraph "edge_count") ++ " edges (" ++ (← shown callGraph "strategy" .null)
      ++ ")"]

/-- (errorLines callGraph) tells why there is no call graph. -/
def errorLines (callGraph : Json) : Except Fault (List Text) := do
  let error ← callGraph.fieldD "error" .null
  if error.truthy then return ["  error: " ++ (← error.display)] else return []

/-- (flowLine dataFlow) tells how many data flows there are. -/
def flowLine (dataFlow : Json) : Except Fault Text := do
  return "Data flows:         " ++ (← count dataFlow "total") ++ " ("
    ++ (← shown dataFlow "status" .null) ++ ")"

/-- (riskLine issues) tells how many issues there are of each severity. -/
def riskLine (issues : Json) : Except Fault Text := do
  let bySeverity ← sectionOf issues "by_severity"
  let total ← count issues "total"
  let counts ← Severity.all.mapM fun severity => do
    return severity.name ++ " " ++ (← count bySeverity severity.name)
  return "Undefined risks:    " ++ total ++ " (" ++ Text.joinWith ", " counts ++ ")"

/-- (sweepLines report) tells what the sweep found. -/
def sweepLines (report : Json) : Except Fault (List Text) := do
  let sweep ← report.fieldD "project_sweep" .null
  if sweep.truthy then
    return ["Project sweep:      " ++ (← count sweep "issues_found") ++ " issues in "
      ++ (← count sweep "analyzed_methods") ++ " methods"]
  else
    return []

/-- (nameWidth) is the width to which names of kinds are filled. -/
def nameWidth : Nat := 10

/-- (coverageLine kind summary) tells how much of one kind is used. -/
def coverageLine (kind : Text) (summary : Json) : Except Fault Text := do
  let used ← (← summary.part "used").display
  let defined ← (← summary.part "defined").display
  let percent ← (← summary.part "coverage_percent").fixed 1
  let usage ← (← summary.part "usage_count").display
  return "  " ++ Text.padEnd nameWidth kind ++ " " ++ used ++ "/" ++ defined ++ " used (" ++ percent
    ++ "%), " ++ usage ++ " implementations"

/-- (coverageLines report) tells how much of the catalog is used. -/
def coverageLines (report : Json) : Except Fault (List Text) := do
  let coverage ← sectionOf report "coverage"
  if coverage.truthy then
    match coverage.fields? with
    | some fields =>
        let lines ← fields.mapM fun (kind, summary) => do
          coverageLine (← (Json.scalar kind).display) summary
        return "" :: "Coverage:" :: lines
    | none => throw (.noCapability coverage.shape "items")
  else
    return []

/-- (adviceLine item) names a callback worth implementing. -/
def adviceLine (item : Json) : Except Fault Text := do
  let name ← (← item.part "name").display
  let kind ← (← item.part "kind").display
  let reason ← (← item.part "reason").display
  return "  " ++ name ++ " (" ++ kind ++ "): " ++ reason

/-- (adviceLines report) names the callbacks worth implementing. -/
def adviceLines (report : Json) : Except Fault (List Text) := do
  let advice ← report.fieldD "recommendations" (.array [])
  if advice.truthy then
    return "" :: "Consider implementing:" :: (← (← advice.items).mapM adviceLine)
  else
    return []

/-- (closingLines report) tells whether the run was cancelled and where its report is. -/
def closingLines (report : Json) : Except Fault (List Text) := do
  let cancelled ← report.fieldD "cancelled" .null
  let analysisId ← report.fieldD "analysis_id" .null
  let cancelledLines : List Text :=
    if cancelled.truthy then
      ["", "Run was cancelled; results cover the completed methods only."]
    else
      []
  let reportLines : List Text ←
    if analysisId.truthy then
      pure ["", "Report written for " ++ (← analysisId.display) ++ " (run "
        ++ (← shown report "run_id" .null) ++ ")"]
    else
      pure []
  return cancelledLines ++ reportLines ++ [rule]

/-- (render report) is the summary of a report. -/
def render (report : Json) : Except Fault Text := do
  let stats ← sectionOf report "stats"
  let callGraph ← sectionOf report "callgraph"
  let dataFlow ← sectionOf report "data_flow"
  let issues ← sectionOf report "undefined_issues"
  let head ← heading report stats callGraph
  let error ← errorLines callGraph
  let flow ← flowLine dataFlow
  let risk ← riskLine issues
  let sweep ← sweepLines report
  let coverage ← coverageLines report
  let advice ← adviceLines report
  let closing ← closingLines report
  let lines := head ++ error ++ [flow, risk] ++ sweep ++ coverage ++ advice ++ closing
  return Text.joinWith "\n" lines ++ "\n"

end ArkLifecycle.Summary
