import ArkLifecycle.Export.DataFlow
import ArkLifecycle.Report

/-! Data flows as a Markdown text: a ranking of methods, the targets of the first ones, and
statistics. A value that cannot be shown keeps the text from being written.
-/

namespace ArkLifecycle.Export

variable {κ ℓ : Type} [BEq κ] [Datum κ] [Datum ℓ]

/-- (rankedMethods) is how many methods the ranking shows. -/
def rankedMethods : Nat := 20

/-- (detailedMethods) is how many methods are shown with their targets. -/
def detailedMethods : Nat := 10

/-- (shownTargets) is how many targets of a method are shown. -/
def shownTargets : Nat := 10

/-- (cell text) writes a text as a table cell: bars are escaped, and then line ends become blanks.
-/
def cell (text : Text) : Text :=
  (text.replace '|' "\\|").replace '\n' " "

theorem cell_eq (text : Text)
    : cell text
      = .ofList (text.toList.flatMap fun (letter : Letter) =>
          if letter = '|' then ['\\', '|'] else if letter = '\n' then [' '] else [letter]) :=
  Text.replace_replace text (by decide)

/-- (rankRow rank group) is a row of the ranking. -/
def rankRow (rank : Nat) (group : κ × List (DataFlow κ ℓ)) : Except Fault Text := do
  let method ← Datum.shown group.1
  return "| " ++ toString rank ++ " | " ++ method ++ " | " ++ toString group.2.length ++ " |"

/-- (rankRows groups) are the rows of the ranking, counted from one. -/
def rankRows (groups : List (κ × List (DataFlow κ ℓ))) : Except Fault (List Text) :=
  (groups.zipIdx 1).mapM fun (group, rank) => rankRow rank group

/-- (exampleLine flows) shows the line of the first of some flows. -/
def exampleLine : List (DataFlow κ ℓ) → Except Fault Text
  | [] => .error .outOfRange
  | flow :: _ => Datum.shown flow.line

/-- (targetRow group) is a row for a target: the flows to it, and the line of the first one. -/
def targetRow (group : κ × List (DataFlow κ ℓ)) : Except Fault Text := do
  let target ← Datum.shown group.1
  let line ← exampleLine group.2
  return "| " ++ cell target ++ " | " ++ toString group.2.length ++ " | " ++ line ++ " |"

/-- (targetRows flows) are the rows for the targets of one method. -/
def targetRows (flows : List (DataFlow κ ℓ)) : Except Fault (List Text) :=
  ((ranked (byTarget flows)).take shownTargets).mapM targetRow

/-- (detail group) is the section about one method. -/
def detail (group : κ × List (DataFlow κ ℓ)) : Except Fault (List Text) := do
  let method ← Datum.shown group.1
  let header : List Text :=
    ["### " ++ method, "", "**Data flows**: " ++ toString group.2.length, "",
      "| Target | Calls | Example Line |", "|--------|-------|--------------|"]
  let blank : Text := ""
  return header ++ (← targetRows group.2) ++ [blank]

/-- (kindOf? records source) is the kind of the callback with a short name; of several the last one
counts.
-/
def kindOf? (records : List (Record κ)) (source : κ) : Option Kind :=
  (records.reverse.find? fun record => (Datum.toJson source).isText record.key).map Record.kind

/-- (countOfKind records flows kind) is the number of flows from callbacks of a kind. -/
def countOfKind (records : List (Record κ)) (flows : List (DataFlow κ ℓ)) (kind : Kind) : Nat :=
  (flows.filter fun flow => kindOf? records flow.source = some kind).length

/-- (overview listing timestamp) is the beginning of the text. -/
def overview (listing : FlowListing κ ℓ) (timestamp : Text) : List Text :=
  ["# Lifecycle Data-Flow Report", "", "Generated: " ++ timestamp, "", "---", "", "## Overview",
    "",
    "- **Total data flows**: " ++ toString listing.flows.length,
    "- **Lifecycle methods**: " ++ toString listing.records.length,
    "- **Methods with flows**: " ++ toString (bySource listing.flows).length, ""]

/-- (perMethod flows) is the average number of flows of a method that has flows. -/
def perMethod (flows : List (DataFlow κ ℓ)) : Except Fault Binary64 :=
  let methods := (bySource flows).length
  if methods = 0 then .error .divisionByZero else .ok (.ofRatio false flows.length methods)

/-- (statistics listing) is the end of the text. -/
def statistics (listing : FlowListing κ ℓ) : Except Fault (List Text) := do
  let flows := listing.flows
  let depth := ChainDepth.ofFlows flows
  let average ← perMethod flows
  let catalog ← Datum.shown listing.catalogVersion
  return ["## Data Flow Statistics", "", "### By Lifecycle Kind", "",
    "- **Ability lifecycle**: " ++ toString (countOfKind listing.records flows .ability)
      ++ " data flows",
    "- **Component lifecycle**: " ++ toString (countOfKind listing.records flows .component)
      ++ " data flows",
    "", "### Average", "",
    "Per lifecycle method: **" ++ average.fixedText 2 ++ "** data flows",
    "", "### Call Depth", "",
    "- **Max depth**: " ++ toString depth.deepest,
    "- **Average depth**: " ++ depth.average.fixedText 2,
    "", "---", "", "*Catalog " ++ catalog ++ "*"]

/-- (markdownLines listing timestamp) are the lines of the text. -/
def markdownLines (listing : FlowListing κ ℓ) (timestamp : Text) : Except Fault (List Text) := do
  if listing.flows.isEmpty then
    let status ← Datum.shown listing.status
    let silence : Text := "No data flows extracted (status: " ++ status ++ ")."
    return overview listing timestamp ++ [silence]
  else
    let groups := (ranked (bySource listing.flows)).take rankedMethods
    let ranking : List Text :=
      ["## Top Methods by Data Flow (Top " ++ toString rankedMethods ++ ")", "",
        "| Rank | Method | Data Flows |", "|------|--------|------------|"]
    let details : List Text := ["", "## Data Flow Details", ""]
    let rows ← rankRows groups
    let sections ← (groups.take detailedMethods).mapM detail
    let ending ← statistics listing
    return overview listing timestamp ++ ranking ++ rows ++ details ++ sections.flatten ++ ending

/-- (markdown listing timestamp) writes the data flows of an analysis. -/
def markdown (listing : FlowListing κ ℓ) (timestamp : Text) : Except Fault Text := do
  return Text.joinWith "\n" (← markdownLines listing timestamp) ++ "\n"

end ArkLifecycle.Export
