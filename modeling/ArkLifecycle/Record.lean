import ArkLifecycle.Json.Datum
import ArkLifecycle.Program.Basic
import ArkLifecycle.Risk
import ArkLifecycle.Role

/-! What an analysis finds: lifecycle callbacks, data flows, and risks of undefined values.

Callbacks and flows are made of texts and line numbers when an analysis finds them. Those that are
written by hand may have any documents instead.
-/

namespace ArkLifecycle

/-- A lifecycle callback that a class of the program declares. -/
structure Record (κ : Type := Text) where
  methodName : κ
  kind : Kind
  className : κ
  filePath : κ
  line : Int
  hasImplementation : Bool
  signature : κ
  method : Option Method
deriving Repr, Inhabited

/-- An invocation in the body of a callback. The chain leads from the root of the call graph to
the target.
-/
structure DataFlow (κ : Type := Text) (ℓ : Type := Int) where
  source : κ
  target : κ
  line : ℓ
  chain : List Json
deriving Repr, Inhabited

/-- A statement of a callback that may meet an undefined value. -/
structure RiskIssue where
  method : Text
  className : Text
  line : Int
  description : Text
  severity : Severity
  confidence : Confidence
deriving DecidableEq, Repr, Inhabited

/-- A pattern of undefined values somewhere in the project. -/
structure ProjectIssue where
  filePath : Text
  className : Text
  methodName : Text
  line : Int
  subject : Text
  description : Text
  severity : Severity
deriving DecidableEq, Repr, Inhabited

namespace Record

/-- (key record) is the short name of the callback in reports. -/
def key {κ : Type} [Datum κ] (record : Record κ) : Text :=
  Signature.methodKey (Datum.label record.className) (Datum.label record.methodName)

/-- (toJson record) writes a record. -/
def toJson (record : Record) : Json :=
  .object [
    ("key", .text record.key),
    ("methodName", .text record.methodName),
    ("kind", .text record.kind.name),
    ("className", .text record.className),
    ("filePath", .text record.filePath),
    ("line", .int record.line),
    ("hasImplementation", .bool record.hasImplementation),
    ("signature", .text record.signature)]

end Record

namespace DataFlow

/-- (carried) is what a flow carries; the analysis does not tell values apart. -/
def carried : Text := "data"

/-- (toJson flow) writes a data flow. -/
def toJson {κ ℓ : Type} [Datum κ] [Datum ℓ] (flow : DataFlow κ ℓ) : Json :=
  .object [
    ("from", Datum.toJson flow.source),
    ("to", Datum.toJson flow.target),
    ("variable", .text carried),
    ("line", Datum.toJson flow.line),
    ("callChain", .array flow.chain)]

end DataFlow

/-- (RiskIssue.toJson issue) writes an issue. -/
def RiskIssue.toJson (issue : RiskIssue) : Json :=
  .object [
    ("method", .text issue.method),
    ("class_name", .text issue.className),
    ("line", .int issue.line),
    ("description", .text issue.description),
    ("severity", .text issue.severity.name),
    ("confidence", .text issue.confidence.name)]

/-- (ProjectIssue.toJson issue) writes an issue of the sweep. -/
def ProjectIssue.toJson (issue : ProjectIssue) : Json :=
  .object [
    ("file_path", .text issue.filePath),
    ("class_name", .text issue.className),
    ("method_name", .text issue.methodName),
    ("line", .int issue.line),
    ("variable", .text issue.subject),
    ("description", .text issue.description),
    ("severity", .text issue.severity.name)]

end ArkLifecycle
