import ArkLifecycle.Program.Reader
import ArkLifecycle.Record

/-! Callbacks and data flows that are written by hand.

A record says at least which method of which class is a callback of which kind, and a flow where it
comes from and where it goes. Whatever stands there is taken as it is; only the kind and the body
are looked into.

This reads what the library is called with where there was no analysis before: callbacks and flows
to be counted, and flows to be exported.
-/

namespace ArkLifecycle

/-- (Kind.read v) is the kind that a document names, which must be one. -/
def Kind.read (v : Json) : Except Fault Kind := do
  match Kind.ofJson? v with
  | some kind => return kind
  | none => throw (.unknownKind (← v.quoted))

namespace Record

/-- (defaultFile) is the file of a record that gives none. -/
def defaultFile : Text := "a.ets"

/-- (hasBody v) holds of a record that says something about the body of its method. -/
def hasBody : Json → Except Fault Bool
  | .object fields => .ok (Json.lookup fields "cfg").isSome
  | .scalar (.text _) | .array _ => .ok false
  | v => .error (.noMembers v.shape)

/-- (readBody v) reads the method of a record, if there is something about its body. -/
def readBody (v : Json) : Except Fault (Option Method) := do
  if ← hasBody v then
    let name ← v.part "method"
    let className ← v.part "class"
    let filePath ← v.fieldD "file" (.text defaultFile)
    let signature ← v.fieldD "signature" (.text "")
    let cfg ← Program.readCfg (some (← v.part "cfg"))
    return some {
      name := Datum.label name
      className := Datum.label className
      signature :=
        if signature.truthy then
          Datum.label signature
        else
          Method.defaultSignature (Datum.label filePath) (Datum.label className)
            (Datum.label name)
      filePath := Datum.label filePath
      line := 0
      column := 0
      cfg }
  else
    return none

/-- (read v) reads a record. -/
def read (v : Json) : Except Fault (Record Json) := do
  let method ← readBody v
  let methodName ← v.part "method"
  let kind ← Kind.read (← v.part "kind")
  return {
    methodName
    kind
    className := ← v.part "class"
    filePath := ← v.fieldD "file" (.text defaultFile)
    line := 0
    hasImplementation := (← v.fieldD "impl" (.bool true)).truthy
    signature := ← v.fieldD "signature" (.text "")
    method }

end Record

/-- (DataFlow.read v) reads a data flow. -/
def DataFlow.read (v : Json) : Except Fault (DataFlow Json Json) := do
  let source ← v.part "from"
  let target ← v.part "to"
  let line ← v.fieldD "line" (.int 0)
  return { source, target, line, chain := ← (← v.fieldD "chain" (.array [])).items }

end ArkLifecycle
