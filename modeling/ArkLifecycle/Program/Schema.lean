import ArkLifecycle.Schema.Basic

/-! The schema of an exported program. -/

namespace ArkLifecycle.Program

/-- (schemaFile) is the file name that messages give for the schema. -/
def schemaFile : Text := "ProgramModel.schema.json"

/-- (positionRule) asks for a position in a file: an integer that is not negative. -/
def positionRule : Schema :=
  [.type [.integer], .minimum (.int 0)]

/-- (exprSchema) describes an expression. -/
def exprSchema : Schema :=
  [.type [.object], .required ["text"],
    .properties [
      ("text", [.type [.string]]),
      ("callee", [.type [.string, .null]])]]

/-- (stmtSchema) describes a statement. -/
def stmtSchema : Schema :=
  [.type [.object], .required ["text"],
    .properties [
      ("text", [.type [.string]]),
      ("line", positionRule),
      ("col", positionRule),
      ("exprs", [.type [.array], .items exprSchema])]]

/-- (blockSchema) describes a basic block. -/
def blockSchema : Schema :=
  [.type [.object],
    .properties [
      ("id", [.type [.integer]]),
      ("stmts", [.type [.array], .items stmtSchema])]]

/-- (cfgSchema) describes a control-flow graph. -/
def cfgSchema : Schema :=
  [.type [.object], .required ["blocks"],
    .properties [("blocks", [.type [.array], .items blockSchema])]]

/-- (methodSchema) describes a method. -/
def methodSchema : Schema :=
  [.type [.object], .required ["name"],
    .properties [
      ("name", [.type [.string]]),
      ("signature", [.type [.string]]),
      ("line", positionRule),
      ("col", positionRule),
      ("cfg", [.oneOf [[.type [.null]], cfgSchema]])]]

/-- (classSchema) describes a class. -/
def classSchema : Schema :=
  [.type [.object], .required ["name"],
    .properties [
      ("name", [.type [.string]]),
      ("superclass", [.type [.string, .null]]),
      ("decorators", [.type [.array], .items [.type [.string]]]),
      ("methods", [.type [.array], .items methodSchema])]]

/-- (fileSchema) describes a source file. -/
def fileSchema : Schema :=
  [.type [.object], .required ["path"],
    .properties [
      ("path", [.type [.string]]),
      ("classes", [.type [.array], .items classSchema])]]

/-- (schema) describes an exported program. -/
def schema : Schema :=
  [.type [.object], .required ["files"],
    .properties [
      ("version", [.type [.string]]),
      ("project", [.type [.string]]),
      ("files", [.type [.array], .items fileSchema])]]

end ArkLifecycle.Program
