import ArkLifecycle.Export.Markdown
import ArkLifecycle.Record.Reader

/-! Exporting flows that are written by hand.

Flows are grouped by where they come from, and in the Markdown text also by where they go; so these
must be names there, and a target must be a text to become a table cell.

This is for those who call the library with flows of their own. An analysis exports the flows that
it found itself, by the same exports; both of their ends are texts.
-/

namespace ArkLifecycle.Export

/-- (requireNames key flows) refuses flows whose key is no name. -/
def requireNames (key : DataFlow Json Json → Json) (flows : List (DataFlow Json Json))
    : Except Fault Unit :=
  flows.forM fun flow => discard (key flow).name?

/-- (requireText v) refuses what is no text. -/
def requireText : Json → Except Fault Unit
  | .text _ => .ok ()
  | v => .error (.noCapability v.shape "replace")

/-- (requireCells flows) refuses the flows of one method whose targets cannot be shown. -/
def requireCells (flows : List (DataFlow Json Json)) : Except Fault Unit := do
  requireNames DataFlow.target flows
  ((ranked (byTarget flows)).take shownTargets).forM fun group => requireText group.1

/-- (writtenGroups key flows) are the keys with the numbers of their flows. -/
def writtenGroups (key : DataFlow Json Json → Json) (flows : List (DataFlow Json Json))
    : Except Fault Json := do
  requireNames key flows
  return .array ((groupBy key flows).map fun group =>
    .array [group.1, .ofNat group.2.length])

/-- (writtenJson listing timestamp) writes flows as a document. -/
def writtenJson (listing : FlowListing Json Json) (timestamp : Text) : Except Fault Json := do
  requireNames DataFlow.source listing.flows
  return dataFlowJson listing timestamp

/-- (writtenMarkdown listing timestamp) writes flows as a Markdown text. -/
def writtenMarkdown (listing : FlowListing Json Json) (timestamp : Text) : Except Fault Text := do
  requireNames DataFlow.source listing.flows
  let groups := (ranked (bySource listing.flows)).take rankedMethods
  (groups.take detailedMethods).forM fun group => requireCells group.2
  markdown listing timestamp

end ArkLifecycle.Export
