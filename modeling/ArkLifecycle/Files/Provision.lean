import ArkLifecycle.Files.Tree
import ArkLifecycle.Json.Access

/-! Files that are given as a document: a mapping from written paths to texts.

The files are written one after the other, each with its directories. A text that has no bytes is
refused before its file is touched.

This lays out the files that a run then finds. No run does so itself.
-/

namespace ArkLifecycle.FileEdit

/-- (contentOf v) is `v` as the text of a file. -/
def contentOf : Json → Except Fault Text
  | .text text =>
      match text.gap? with
      | some gap => .error (.notEncodable gap)
      | none => .ok text
  | v => .error (.noCapability v.shape "encode")

/-- (provide place content) writes one given file. -/
def provide (place content : Json) : FileEdit Unit := do
  let path := Path.ofText (← place.pathText)
  makeDirectory path.parent
  writeFile path (Emission.write (← contentOf content))

/-- (provideAll files) writes the given files, which may be absent or empty in any sense. -/
def provideAll (files : Json) : FileEdit Unit :=
  if files.truthy then
    match files with
    | .object fields => fields.forM fun field => provide (.scalar field.1) field.2
    | v => throw (.noCapability v.shape "items")
  else
    pure ()

end ArkLifecycle.FileEdit
