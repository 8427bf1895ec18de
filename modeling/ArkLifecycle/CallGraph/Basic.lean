import ArkLifecycle.EntryMethod
import ArkLifecycle.Invocation
import ArkLifecycle.Json.Access
import ArkLifecycle.Session

/-! Call graphs by class-hierarchy resolution.

A call with a known target goes to that method if the program has it, else to every method of
the same name, else to the unknown target itself. The graph is explored breadth first: nodes are
listed in the order in which they are met, and every call site gives one edge. A limit on the
number of nodes keeps out new nodes, and the edges to them.
-/

namespace ArkLifecycle

/-- A call graph. Nodes are signatures, and edges are pairs of caller and callee, one for each call
site.
-/
structure CallGraph (ν : Type := Text) where
  nodes : List ν
  edges : List (ν × ν)
deriving DecidableEq, Repr, Inhabited

namespace CallGraph

/-- (callees graph caller) are the callees of a node, one for each call site. -/
def callees {ν : Type} [BEq ν] (graph : CallGraph ν) (caller : ν) : List ν :=
  (graph.edges.filter fun edge => edge.1 == caller).map Prod.snd

/-- (toJson graph) writes a call graph. -/
def toJson {ν : Type} [Datum ν] (graph : CallGraph ν) : Json :=
  .object [
    ("nodes", .array (graph.nodes.map Datum.toJson)),
    ("edges", .array (graph.edges.map fun (caller, callee) =>
      .object [("caller", Datum.toJson caller), ("callee", Datum.toJson callee)]))]

-----------------------------------------------------------------------------------------
-- Resolution of calls

/-- (resolveTarget program target) are the methods that a call to a known target may reach. -/
def resolveTarget (program : Program) (target : Text) : List Text :=
  if (program.method? target).isSome then
    [target]
  else
    match program.methodsNamed (Signature.methodName target) with
    | [] => [target]
    | methods => methods.map Method.signature

/-- (resolveText program text) are the methods that an invocation without a known target may
reach, by the name it calls.
-/
def resolveText (program : Program) (text : Text) : List Text :=
  if Text.contains text "invoke" then
    match Invocation.called? text with
    | some name => (program.methodsNamed name).map Method.signature
    | none => []
  else
    []

/-- (resolve program expr) are the methods that an expression may call. -/
def resolve (program : Program) (expr : Expr) : Except Fault (List Text) :=
  match expr.callee with
  | .signature target => .ok (resolveTarget program target)
  | .unresolved =>
      match Signature.embedded? expr.text with
      | some target => .ok (resolveTarget program target)
      | none => .ok (resolveText program expr.text)
  | .malformed (.scalar value) => .error (.noCapability value.shape "strip")
  | .malformed v => .error (.notAName v.shape)

/-- (calls program cfg) are the methods that the expressions of a graph may call, in order. -/
def calls (program : Program) (cfg : Cfg) : Except Fault (List Text) := do
  let exprs := cfg.stmts.flatMap Stmt.exprs
  return (← exprs.mapM (resolve program)).flatten

/-- (syntheticCalls? synthetic signature) are the calls of a synthetic method; of several with one
signature the last one counts.
-/
def syntheticCalls? (synthetic : List SyntheticMethod) (signature : Text)
    : Option (List Text) :=
  (synthetic.reverse.find? fun method => method.signature == signature).map
    SyntheticMethod.calls

/-- (calleesOf host program synthetic signature) are the methods that a node may call. A node that
is no method of the program calls nothing.
-/
def calleesOf (host : Host) (program : Program) (synthetic : List SyntheticMethod)
    (signature : Text)
    : Activity (List Text) := do
  match syntheticCalls? synthetic signature with
  | some calls => return calls
  | none =>
      match program.method? signature with
      | none => return []
      | some method =>
          match ← Activity.bodyOf host method with
          | none => return []
          | some cfg => calls program cfg

-----------------------------------------------------------------------------------------
-- Exploration

variable {ν : Type} [BEq ν]

/-- (isFull limit count) holds when a graph of `count` nodes takes no new ones. -/
def isFull (limit : Option Json) (count : Nat) : Except Fault Bool :=
  match limit with
  | none => .ok false
  | some limit => limit.isReachedBy count

/-- (addCalls limit caller graph callees) adds the calls of one node to a graph. -/
def addCalls (limit : Option Json) (caller : ν)
    : CallGraph ν → List ν → Except Fault (CallGraph ν)
  | graph, [] => .ok graph
  | graph, callee :: rest =>
      if graph.nodes.contains callee then
        addCalls limit caller { graph with edges := graph.edges ++ [(caller, callee)] } rest
      else do
        if ← isFull limit graph.nodes.length then
          addCalls limit caller graph rest
        else
          addCalls limit caller
            { nodes := graph.nodes ++ [callee], edges := graph.edges ++ [(caller, callee)] }
            rest

/-- (explore limit expand fuel next graph) adds the calls of the nodes from index `next` on, those
included that are met on the way.
-/
def explore (limit : Option Json) (expand : ν → Activity (List ν))
    : Nat → Nat → CallGraph ν → Activity (CallGraph ν)
  | 0, _, graph => return graph
  | fuel + 1, next, graph =>
      match graph.nodes[next]? with
      | none => return graph
      | some caller => do
          let callees ← expand caller
          let graph ← addCalls limit caller graph callees
          explore limit expand fuel (next + 1) graph

/-- (distinct nodes) keeps the first occurrence of every node, in order. -/
def distinct (nodes : List ν) : List ν :=
  (nodes.foldl (fun kept node => if kept.contains node then kept else node :: kept) []).reverse

/-- (roots entries) is the graph of the entry points alone. -/
def roots (entries : List ν) : CallGraph ν :=
  { nodes := distinct entries, edges := [] }

/-- (buildBy host limit expand bound entries) is the call graph from the entry points on, which has
at most `bound` nodes.
-/
def buildBy (host : Host) (limit : Option Json) (expand : ν → Activity (List ν)) (bound : Nat)
    (entries : List ν)
    : Activity (CallGraph ν) :=
  let start := roots entries
  Activity.span host "tool.cha_callgraph" [("entry_count", .ofNat start.nodes.length)] <|
    explore limit expand (bound + 1) 0 start

/-- (bodyCalls program) is the number of calls in the bodies of a program. -/
def bodyCalls (program : Program) : Nat :=
  let ofMethod (method : Method) : Nat :=
    match method.cfg.map (calls program) with
    | some (.ok callees) => callees.length
    | _ => 0
  ((Program.methodsOf program.files).map ofMethod).foldr (· + ·) 0

/-- (sizeBound program synthetic entries) bounds the number of nodes: every node is an entry point
or stands in the calls of one method.
-/
def sizeBound (program : Program) (synthetic : List SyntheticMethod) (entries : List Text)
    : Nat :=
  entries.length + (synthetic.map fun method => method.calls.length).foldr (· + ·) 0
    + bodyCalls program

/-- (build host program synthetic limit entries) is the call graph from the entry points on. -/
def build (host : Host) (program : Program) (synthetic : List SyntheticMethod)
    (limit : Option Json) (entries : List Text)
    : Activity CallGraph :=
  buildBy host limit (calleesOf host program synthetic) (sizeBound program synthetic entries)
    entries

end CallGraph

end ArkLifecycle
