import ArkLifecycle.Analysis

/-! Data flows as a document, grouped by the method they start from.

Groups with more flows come first; groups of one size stay in the order in which their first
flows were found.
-/

namespace ArkLifecycle

/-- What is exported of an analysis: the callbacks and data flows, the version of the catalog, and
whether data flows were looked for at all.
-/
structure FlowListing (κ : Type := Text) (ℓ : Type := Int) where
  records : List (Record κ)
  flows : List (DataFlow κ ℓ)
  catalogVersion : κ
  status : κ
deriving Repr, Inhabited

/-- (Analysis.listing analysis) is what is exported of an analysis. -/
def Analysis.listing (analysis : Analysis) : FlowListing :=
  { records := analysis.records
    flows := analysis.flows
    catalogVersion := analysis.catalogVersion
    status := analysis.flowStatus }

namespace Export

variable {κ ℓ : Type} [BEq κ] [Datum κ] [Datum ℓ]

/-- (groupBy key flows) are the flows with one key together, for every key in the order of first
appearance.
-/
def groupBy (key : DataFlow κ ℓ → κ) (flows : List (DataFlow κ ℓ))
    : List (κ × List (DataFlow κ ℓ)) :=
  (CallGraph.distinct (flows.map key)).map fun name =>
    (name, flows.filter fun flow => key flow == name)

/-- (bySource flows) are the flows of each method. -/
def bySource (flows : List (DataFlow κ ℓ)) : List (κ × List (DataFlow κ ℓ)) :=
  groupBy DataFlow.source flows

/-- (byTarget flows) are the flows to each target. -/
def byTarget (flows : List (DataFlow κ ℓ)) : List (κ × List (DataFlow κ ℓ)) :=
  groupBy DataFlow.target flows

/-- (ranked groups) puts the largest groups first. -/
def ranked (groups : List (κ × List (DataFlow κ ℓ))) : List (κ × List (DataFlow κ ℓ)) :=
  rankBy (fun group => group.2.length) groups

/-- (flowInGroup flow) writes a flow without its source. -/
def flowInGroup (flow : DataFlow κ ℓ) : Json :=
  .object [
    ("to", Datum.toJson flow.target),
    ("variable", .text DataFlow.carried),
    ("line", Datum.toJson flow.line),
    ("callChain", .array flow.chain)]

/-- (groupJson group) writes the flows of one method. -/
def groupJson (group : κ × List (DataFlow κ ℓ)) : Json :=
  .object [
    ("method", Datum.toJson group.1),
    ("flowCount", .ofNat group.2.length),
    ("flows", .array (group.2.map flowInGroup))]

/-- (dataFlowJson listing timestamp) writes the data flows of an analysis. -/
def dataFlowJson (listing : FlowListing κ ℓ) (timestamp : Text) : Json :=
  .object [
    ("metadata", .object [
      ("totalFlows", .ofNat listing.flows.length),
      ("lifecycleMethods", .ofNat listing.records.length),
      ("catalogVersion", Datum.toJson listing.catalogVersion),
      ("timestamp", .text timestamp)]),
    ("dataFlowsByMethod", .array ((ranked (bySource listing.flows)).map groupJson)),
    ("allFlows", .array (listing.flows.map DataFlow.toJson))]

end Export

end ArkLifecycle
