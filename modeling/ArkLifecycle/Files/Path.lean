import ArkLifecycle.Text.Search

/-! Paths of files.

A path is a root, empty for a relative path, and the names on the way. Empty names and single
dots are dropped when a path is read; double dots stay.
-/

namespace ArkLifecycle

/-- A path of a file or directory. -/
structure Path where
  root : Text
  names : List Text
deriving DecidableEq, Repr, Inhabited

namespace Path

/-- (rootOf s) is the root that a written path begins with: exactly two slashes are a root of
their own, any other number of them is one slash.
-/
def rootOf (s : Text) : Text :=
  match s.toList with
  | .char '/' :: .char '/' :: .char '/' :: _ => "/"
  | .char '/' :: .char '/' :: _ => "//"
  | .char '/' :: _ => "/"
  | _ => ""

/-- (ofText s) reads a written path. -/
def ofText (s : Text) : Path :=
  { root := rootOf s
    names := (Text.piecesOf '/' s).filter fun name => name != "" && name != "." }

/-- (render path) writes a path; the path without names is a dot. -/
def render (path : Path) : Text :=
  let names := Text.joinWith "/" path.names
  if path.root.isEmpty && path.names.isEmpty then "." else path.root ++ names

/-- (join path more) goes on from `path` by `more`, or starts anew when `more` has a root. -/
def join (path more : Path) : Path :=
  if more.root.isEmpty then { path with names := path.names ++ more.names } else more

/-- (joinText path s) goes on from `path` by a written path. -/
def joinText (path : Path) (s : Text) : Path :=
  path.join (ofText s)

/-- (parent path) is the directory that holds the path. -/
def parent (path : Path) : Path :=
  { path with names := path.names.dropLast }

/-- (name path) is the last name on the way, empty when there is none. -/
def name (path : Path) : Text :=
  path.names.getLastD ""

/-- (suffix path) is the last dot of the name and what follows it, unless the name begins or ends
there.
-/
def suffix (path : Path) : Text :=
  match Text.beforeLast '.' path.name.toList with
  | some (_ :: _, c :: rest) => Text.ofList (.char '.' :: c :: rest)
  | _ => ""

end Path

end ArkLifecycle
