import ArkLifecycle.CallGraph.Basic

/-! From which roots the call graph of an analysis is built, and by whom.

The virtual entry method is the only root when the builder knows it; otherwise every lifecycle
callback is one. A builder that fails leaves a message and no graph.
-/

namespace ArkLifecycle

/-- Who builds call graphs: this library, knowing some synthetic methods, or someone else. -/
inductive Backend where
  | hierarchy (synthetic : List SyntheticMethod) (limit : Option Json)
  | external (hasMethod : Text → Except Fault Bool)
      (build : List Text → Except Fault CallGraph)

/-- How the roots of a call graph were chosen. -/
inductive Strategy where
  | none
  | syntheticEntry
  | lifecycleEntries
deriving DecidableEq, Repr, Inhabited

/-- (Strategy.name strategy) is the word for a strategy in reports. -/
def Strategy.name : Strategy → Text
  | .none => "none"
  | .syntheticEntry => "synthetic_entry"
  | .lifecycleEntries => "lifecycle_entries"

/-- The call graph of an analysis, how its roots were chosen, and what went wrong. -/
structure CallGraphSummary where
  graph : Option CallGraph
  strategy : Strategy
  entryPoints : List Text
  error : Option Text
deriving Repr, Inhabited

namespace Backend

/-- (hasMethod backend program signature) asks whether the builder knows a method. -/
def hasMethod (backend : Backend) (program : Program) (signature : Text) : Activity Bool :=
  match backend with
  | .hierarchy synthetic _ =>
      return (CallGraph.syntheticCalls? synthetic signature).isSome
        || (program.method? signature).isSome
  | .external hasMethod _ => hasMethod signature

/-- (build backend host program entries) has a call graph built from entry points. -/
def build (backend : Backend) (host : Host) (program : Program) (entries : List Text)
    : Activity CallGraph :=
  match backend with
  | .hierarchy synthetic limit => CallGraph.build host program synthetic limit entries
  | .external _ build => build entries

end Backend

namespace CallGraphSummary

/-- (nodeCount summary) is the number of nodes, zero without a graph. -/
def nodeCount (summary : CallGraphSummary) : Nat :=
  match summary.graph with
  | some graph => graph.nodes.length
  | none => 0

/-- (edgeCount summary) is the number of edges, zero without a graph. -/
def edgeCount (summary : CallGraphSummary) : Nat :=
  match summary.graph with
  | some graph => graph.edges.length
  | none => 0

/-- (failed summary) holds when there is a message that says something. -/
def failed (summary : CallGraphSummary) : Bool :=
  match summary.error with
  | some message => !message.isEmpty
  | none => false

/-- (fields summary) are the fields of a summary in reports and events. -/
def fields (summary : CallGraphSummary) : Json.Fields :=
  [("strategy", .text summary.strategy.name),
    ("entry_point_count", .ofNat summary.entryPoints.length),
    ("node_count", .ofNat summary.nodeCount),
    ("edge_count", .ofNat summary.edgeCount),
    ("error", Json.ofOption Json.text summary.error)]

/-- (chooseRoots backend program records) are the strategy and the roots. -/
def chooseRoots (backend : Backend) (program : Program) (records : List Record)
    : Activity (Strategy × List Text) := do
  if ← backend.hasMethod program EntryMethod.signature then
    return (.syntheticEntry, [EntryMethod.signature])
  else
    match CallGraph.distinct (records.map Record.signature) with
    | [] => return (.none, [])
    | entries => return (.lifecycleEntries, entries)

/-- (buildFrom backend host program strategy entries) has the graph built, if there are roots. -/
def buildFrom (backend : Backend) (host : Host) (program : Program) (strategy : Strategy)
    (entries : List Text)
    : Activity (Option CallGraph) :=
  if entries.isEmpty then
    return none
  else
    Activity.span host "stage.callgraph"
      [("strategy", .text strategy.name), ("entry_count", .ofNat entries.length)]
      (some <$> backend.build host program entries)

/-- (build backend host program records) is the call graph of an analysis. It never fails: a fault
of the builder becomes the message of the summary.
-/
def build (backend : Backend) (host : Host) (program : Program) (records : List Record)
    : Activity CallGraphSummary := do
  match ← Activity.attempt (chooseRoots backend program records) with
  | .error fault => return ⟨none, .none, [], some fault.message⟩
  | .ok (strategy, entries) =>
      match ← Activity.attempt (buildFrom backend host program strategy entries) with
      | .error fault => return ⟨none, strategy, entries, some fault.message⟩
      | .ok graph => return ⟨graph, strategy, entries, none⟩

end CallGraphSummary

end ArkLifecycle
