import ArkLifecycle.CallGraph.Strategy

/-! Call graphs between nodes that are written by hand.

A node may be any name. A text is the signature of a method; other names are known only as
synthetic methods.

This is for those who call the library with entry points and synthetic methods of their own. An
analysis names both by signatures, and builds its graph without this module.
-/

namespace ArkLifecycle.CallGraph

/-- (readSynthetic v) reads a synthetic method. -/
def readSynthetic (v : Json) : Except Fault (SyntheticMethod Json) := do
  let signature ← v.part "signature"
  return { signature, calls := ← (← v.part "calls").items }

/-- (requireNodes nodes) refuses nodes that are no names. -/
def requireNodes (nodes : List Json) : Except Fault Unit :=
  nodes.forM fun node => discard node.name?

/-- (writtenCallees host program synthetic node) are the nodes that a node may call. -/
def writtenCallees (host : Host) (program : Program) (synthetic : List (SyntheticMethod Json))
    (node : Json)
    : Activity (List Json) := do
  match synthetic.reverse.find? fun method => method.signature == node, node with
  | some method, _ =>
      requireNodes method.calls
      return method.calls
  | none, .text signature =>
      return (← calleesOf host program [] signature).map Json.text
  | none, _ => return []

/-- (buildWritten host program synthetic limit entries) is the call graph from the entry points
on.
-/
def buildWritten (host : Host) (program : Program) (synthetic : List (SyntheticMethod Json))
    (limit : Option Json) (entries : List Json)
    : Activity (CallGraph Json) := do
  requireNodes (synthetic.map SyntheticMethod.signature)
  requireNodes entries
  let calls := (synthetic.map fun method => method.calls.length).foldr (· + ·) 0
  buildBy host limit (writtenCallees host program synthetic)
    (entries.length + calls + bodyCalls program) entries

/-- (knows program synthetic node) asks whether a node is a method. -/
def knows (program : Program) (synthetic : List (SyntheticMethod Json)) (node : Json)
    : Except Fault Bool := do
  discard node.name?
  let isMethod := match node with
    | .text signature => (program.method? signature).isSome
    | _ => false
  return synthetic.any (fun method => method.signature == node) || isMethod

/-- (writtenCalls graph caller) are the callees of a node; an undefined number has none. -/
def writtenCalls (graph : CallGraph Json) (caller : Json) : List Json :=
  if caller.isDefined then graph.callees caller else []

end ArkLifecycle.CallGraph
