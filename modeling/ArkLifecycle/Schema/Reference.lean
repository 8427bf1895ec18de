import ArkLifecycle.Files.Tree
import ArkLifecycle.Json.Parser
import ArkLifecycle.Program.Schema

/-! Finding the schema that a reference means.

A reference with a file suffix is the path of a schema file; one without is the name of a schema
that comes with the library. Those stand in a directory of their own, and a name may be a way
through it.

This is for those who check documents of their own. Programs are checked against one schema, which
the reader of programs knows without a reference.
-/

namespace ArkLifecycle.Schema

/-- (suffix) ends the names of the files that hold the schemas of the library. -/
def suffix : Text := ".schema.json"

/-- (home) is the directory in which the schemas of the library stand. -/
def home : Path := .ofText "schemas"

/-- (bundle) holds the schemas of the library; only what they are called matters. -/
def bundle : FileTree :=
  ⟨[(FileTree.location home, .directory),
    (FileTree.location (home.joinText Program.schemaFile), .file "")]⟩

/-- (bundled reference) is the schema of the library that a name means, with its file name. -/
def bundled (reference : Text) : Except Fault (Text × Schema) := do
  let path := home.joinText (reference ++ suffix)
  match bundle.read path with
  | .ok _ => return (path.name, Program.schema)
  | .error (.fileNotFound _) =>
      throw (.fileNotFound (if path.root.isEmpty then reference ++ suffix else path.render))
  | .error fault => throw fault

/-- (resolve tree reference) is the schema a reference means, with its file name. -/
def resolve (tree : FileTree) (reference : Text) : Except Fault (Text × Schema) := do
  let path := Path.ofText reference
  if path.suffix.isEmpty then
    bundled reference
  else
    return (path.name, ofJson (← Json.parse (← tree.read path)))

/-- (validateBy tree reference v) checks a document against the schema a reference means. -/
def validateBy (tree : FileTree) (reference : Text) (v : Json) : Except Fault Unit := do
  let (name, schema) ← resolve tree reference
  schema.validate name v

end ArkLifecycle.Schema
