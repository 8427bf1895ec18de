import ArkLifecycle.Settings

/-! Environments that are given as a document: a mapping from variables to texts.

Only the variables that override an option are looked at. A variable can hold neither a NUL nor a
letter without bytes.

This gives the settings an environment that is not that of a process. The settings take any.
-/

namespace ArkLifecycle.Settings

/-- (variableValue v) is `v` as the value of a variable. -/
def variableValue : Json → Except Fault Text
  | .text value =>
      match value.nameGap? with
      | some gap => .error (.notEncodable gap)
      | none => if value.toList.contains '\x00' then .error .nullInPath else .ok value
  | v => .error (.notAVariable v.shape)

/-- (readEnvironment v) are the variables that a document sets; it may be absent or empty in any
sense.
-/
def readEnvironment (v : Json) : Except Fault (List (Text × Text)) :=
  match v with
  | .object fields =>
      environmentOptions.filterMapM fun (variable_, _) =>
        match Json.lookup fields variable_ with
        | some value => return some (variable_, ← variableValue value)
        | none => return none
  | v => if v.truthy then .error (.noMembers v.shape) else .ok []

end ArkLifecycle.Settings
