import ArkLifecycle.Files.Emission
import ArkLifecycle.Files.Path

/-! A tree of files and directories.

A location is the list of names that lead to it from the working directory, after a root if the
path has one. A file can stand only in a directory, and directories are made from the top down.
Names and paths have a limited size, and none holds a NUL or a letter that has no bytes.
-/

namespace ArkLifecycle

/-- What stands at a location. -/
inductive Entry where
  | file (text : String)
  | directory
deriving DecidableEq, Repr, Inhabited

/-- A tree of files: the entries, each with its location. -/
structure FileTree where
  entries : List (List Text × Entry)
deriving Repr, Inhabited

namespace FileTree

/-- (empty) is the tree without files. -/
def empty : FileTree := ⟨[]⟩

-----------------------------------------------------------------------------------------
-- Locations

/-- (top) is the location that paths with a root begin at. -/
def top : List Text := ["/"]

/-- (isAbove place) holds of the working directory and of all that is above it. -/
def isAbove (place : List Text) : Bool :=
  place.all (· == "..")

/-- (above place) is the location above a location. The one above the working directory has no
name, so double dots stand for it.
-/
def above (place : List Text) : List Text :=
  if place == top then
    place
  else if isAbove place then
    place ++ [Text.ofString ".."]
  else
    place.dropLast

/-- (enter place name) goes on from a location by one name; a double dot goes back. -/
def enter (place : List Text) (name : Text) : List Text :=
  if name == ".." then above place else place ++ [name.asName]

/-- (start path) is where a path begins. -/
def start (path : Path) : List Text :=
  if path.root.isEmpty then [] else top

/-- (location path) is where a path leads. -/
def location (path : Path) : List Text :=
  path.names.foldl enter (start path)

/-- (entry? tree place) is what stands at a location. The root, the working directory and all
that is above it always stand.
-/
def entry? (tree : FileTree) (place : List Text) : Option Entry :=
  if place == top || isAbove place then
    some .directory
  else
    (tree.entries.find? fun entry => entry.1 == place).map Prod.snd

/-- (put tree place entry) replaces or adds what stands at a location. -/
def put (tree : FileTree) (place : List Text) (entry : Entry) : FileTree :=
  if tree.entries.any (fun known => known.1 == place) then
    ⟨tree.entries.map fun known => if known.1 == place then (place, entry) else known⟩
  else
    ⟨tree.entries ++ [(place, entry)]⟩

-----------------------------------------------------------------------------------------
-- Ways through a tree

/-- (nameLimit) is the number of bytes that a name may have. -/
def nameLimit : Nat := 255

/-- (pathLimit) is the number of bytes that a path must stay below. -/
def pathLimit : Nat := 4096

/-- (inspect path) refuses the paths that cannot be looked up at all. -/
def inspect (path : Path) : Except Fault Unit :=
  match path.render.nameGap? with
  | some gap => .error (.notEncodable gap)
  | none =>
      if path.names.any fun name => name.toList.contains '\x00' then
        .error .nullInPath
      else if pathLimit ≤ path.render.nameBytes.length then
        .error (.nameTooLong path.render)
      else
        .ok ()

/-- (follow tree path place names) goes on by names, each of which must be looked up in a
directory; the path is for the message when one cannot be.
-/
def follow (tree : FileTree) (path : Path)
    : List Text → List Text → Except Fault (List Text)
  | place, [] => .ok place
  | place, name :: rest =>
      match tree.entry? place with
      | some .directory =>
          if nameLimit < name.nameBytes.length then
            .error (.nameTooLong path.render)
          else
            tree.follow path (enter place name) rest
      | some (.file _) => .error (.notDirectory path.render)
      | none => .error (.fileNotFound path.render)

/-- (find tree path) is where a path leads, when all directories on the way stand. -/
def find (tree : FileTree) (path : Path) : Except Fault (List Text) := do
  inspect path
  tree.follow path (start path) path.names

/-- (at? tree path) is what stands at a path. -/
def at? (tree : FileTree) (path : Path) : Option Entry :=
  match tree.find path with
  | .ok place => tree.entry? place
  | .error _ => none

/-- (contains tree path) says whether a file or directory stands at the path. It fails only when
the path is too long to tell.
-/
def contains (tree : FileTree) (path : Path) : Except Fault Bool :=
  match tree.find path with
  | .ok place => .ok (tree.entry? place).isSome
  | .error (.nameTooLong written) => .error (.nameTooLong written)
  | .error _ => .ok false

/-- (isDirectory tree path) holds when a directory stands at the path. -/
def isDirectory (tree : FileTree) (path : Path) : Bool :=
  tree.at? path == some .directory

-----------------------------------------------------------------------------------------
-- Reading and writing

/-- (read tree path) is the text of a file. -/
def read (tree : FileTree) (path : Path) : Except Fault String := do
  match tree.entry? (← tree.find path) with
  | some (.file text) => return text
  | some .directory => throw (.isDirectory path.render)
  | none => throw (.fileNotFound path.render)

/-- (makeOne tree path) makes a directory in one that stands. -/
def makeOne (tree : FileTree) (path : Path) : Except Fault FileTree := do
  let place ← tree.find path
  match tree.entry? place with
  | some _ => throw (.fileExists path.render)
  | none => return tree.put place .directory

/-- (write tree path text) gives a file a new text, making it when its directory stands. -/
def write (tree : FileTree) (path : Path) (text : String) : Except Fault FileTree := do
  let place ← tree.find path
  match tree.entry? place with
  | some .directory => throw (.isDirectory path.render)
  | _ => return tree.put place (.file text)

/-- (append tree path text) adds a text at the end of a file, making it when it is not there. -/
def append (tree : FileTree) (path : Path) (text : String) : Except Fault FileTree :=
  match tree.read path with
  | .ok old => tree.write path (old ++ text)
  | .error _ => tree.write path text

/-- (renderPlace place) writes a location as a path. -/
def renderPlace (place : List Text) : Text :=
  if place.take 1 == top then
    "/" ++ Text.joinWith "/" (place.drop 1)
  else
    Text.joinWith "/" place

/-- (files tree) lists the files with their locations and texts. -/
def files (tree : FileTree) : List (List Text × String) :=
  tree.entries.filterMap fun (place, entry) =>
    match entry with
    | .file text => some (place, text)
    | .directory => none

end FileTree

-----------------------------------------------------------------------------------------
-- Changes

/-- A change of files. What was done before it failed is kept. -/
abbrev FileEdit := ExceptT Fault (StateM FileTree)

namespace FileEdit

/-- (change step) does one step, which changes nothing when it fails. -/
def change (step : FileTree → Except Fault FileTree) : FileEdit Unit := do
  set (← step (← get))

/-- (ensureOne path) makes a directory in one that stands, unless it stands already. -/
def ensureOne (path : Path) : FileEdit Unit := do
  let tree ← get
  match tree.makeOne path with
  | .ok tree => set tree
  | .error fault => if tree.isDirectory path then pure () else throw fault

/-- (ensureFirst path count) makes the directory at the first `count` names of a path; when the one
above it does not stand, that one is made first.
-/
def ensureFirst (path : Path) : Nat → FileEdit Unit
  | 0 => ensureOne { path with names := [] }
  | count + 1 =>
      let here := { path with names := path.names.take (count + 1) }
      tryCatch (ensureOne here) fun fault =>
        match fault with
        | .fileNotFound _ => do
            ensureFirst path count
            ensureOne here
        | fault => throw fault

/-- (makeDirectory path) makes a directory and those on the way to it; one that stands already is
left as it is.
-/
def makeDirectory (path : Path) : FileEdit Unit :=
  ensureFirst path path.names.length

/-- (writeFile path emission) writes a file, with its directories. When the writing ends early, the
file holds what was written until then.
-/
def writeFile (path : Path) (emission : Emission Unit) : FileEdit Unit := do
  makeDirectory path.parent
  let (result, written) := emission.outcome
  change fun tree => tree.write path written
  result

end FileEdit

end ArkLifecycle
