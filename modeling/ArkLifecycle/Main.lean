import ArkLifecycle.CommandLine.Outcome
import Std.Time.Format

/-! The program.

It takes up the files that a run may read, lets the run happen among them, and puts what the run
has left into the file system.
-/

namespace ArkLifecycle.Main

open ArkLifecycle.CommandLine

/-- (printed text) is a text as it is printed; a mark stands where there is no character. -/
def printed (text : Text) : String :=
  String.ofList (text.toList.map fun letter => letter.char?.getD '\ufffd')

/-- (lookUp tree place) takes up what stands at a location of the file system. -/
def lookUp (tree : FileTree) (place : List Text) : IO FileTree := do
  let path := (← IO.currentDir) / printed (FileTree.renderPlace place)
  if (tree.entry? place).isSome then
    return tree
  else if ← path.isDir then
    return tree.put place .directory
  else if ← path.pathExists then
    return tree.put place (.file (← IO.FS.readFile path))
  else
    return tree

/-- (gather tree paths) takes up what stands at the paths and on the way to them. -/
def gather (tree : FileTree) (paths : List Text) : IO FileTree :=
  let placesOf (path : Path) : List (List Text) :=
    (List.range path.names.length).map fun n =>
      FileTree.location { path with names := path.names.take (n + 1) }
  ((paths.map Path.ofText).flatMap placesOf).foldlM lookUp tree

/-- (pathsIn settings) are the paths that the settings of an analysis give. -/
def pathsIn (settings : Json) : List Text :=
  let given (name : Text) : Option Text :=
    match settings.fields?.bind fun sections => Json.lookup sections "analysis" with
    | some analysis =>
        (analysis.fields?.bind fun options => Json.lookup options name).bind fun v =>
          v.display.toOption
    | none => none
  (["catalog", "artifacts_dir"] : List Text).filterMap given

/-- (filesFor environment options) are the files among which a run happens. -/
def filesFor (environment : List (Text × Text)) (options : Options) : IO FileTree := do
  let tree ← gather .empty [options.settings, options.model]
  match settingsFor environment tree options with
  | .ok settings => gather tree (pathsIn settings)
  | .error _ => return tree

/-- (environmentVariables) are the variables that the program reads. -/
def environmentVariables : List Text :=
  "OTEL_EXPORTER_OTLP_ENDPOINT" :: Settings.environmentOptions.map Prod.fst

/-- (readEnvironment) are the values of the variables that are set. -/
def readEnvironment : IO (List (Text × Text)) :=
  environmentVariables.filterMapM fun name => do
    return (← IO.getEnv (printed name)).map fun value => (name, .ofString value)

/-- (newStamp) is a name that no other run has, and the time. -/
def newStamp : IO RunStamp := do
  let bytes ← IO.getRandomBytes 16
  let digits := bytes.toList.flatMap fun byte => Text.hexDigits 2 byte.toNat
  let now := Std.Time.DateTime.ofTimestampWithZone (← Std.Time.Timestamp.now) .UTC
  return {
    runId := .ofChars digits
    timestamp := now.format "uuuu-MM-dd'T'HH:mm:ss.SSSSSS'Z'" }

/-- (keep place entry) puts what a run has left at a location into the file system. -/
def keep (place : List Text) (entry : Entry) : IO Unit := do
  let path := (← IO.currentDir) / printed (FileTree.renderPlace place)
  match entry with
  | .directory => IO.FS.createDirAll path
  | .file text => IO.FS.writeFile path text

/-- (keepAll before after) puts everything that is new into the file system. -/
def keepAll (before after : FileTree) : IO Unit :=
  after.entries.forM fun (place, entry) =>
    if before.entry? place == some entry then pure () else keep place entry

/-- (run words) does what the command line asks for, and gives the exit code. -/
def run (words : List String) : IO UInt32 := do
  let arguments := words.map Text.ofString
  let environment ← readEnvironment
  let tree ←
    match Options.read arguments with
    | .ok options => filesFor environment options
    | .error _ => pure .empty
  let outcome := execute .willing environment tree (← newStamp) arguments
  keepAll tree outcome.tree
  IO.print (printed outcome.ending.output)
  IO.eprint (printed outcome.ending.complaint)
  return outcome.ending.exitCode.toUInt32

end ArkLifecycle.Main

/-- (main arguments) is the entry point of the program. -/
def main (arguments : List String) : IO UInt32 :=
  ArkLifecycle.Main.run arguments
