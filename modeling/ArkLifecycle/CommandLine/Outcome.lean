import ArkLifecycle.CommandLine.Options
import ArkLifecycle.Run
import ArkLifecycle.Settings
import ArkLifecycle.Summary

/-! What the program does, from its command line to its output. -/

namespace ArkLifecycle.CommandLine

/-- How the program ends. -/
inductive Ending where
  /-- The program printed the summary of a run. -/
  | summary (text : Text)
  /-- The program printed how it is used. -/
  | help
  /-- The program was misused. -/
  | misuse (misuse : Misuse)
  /-- The run failed. -/
  | failure (fault : Fault)
deriving Repr, Inhabited

/-- The end of the program, and what it leaves behind. -/
structure Outcome where
  ending : Ending
  session : Session
  tree : FileTree
deriving Inhabited

/-- (usage) says how the program is called. -/
def usage : Text :=
  Text.joinWith "\n" [
    "usage: lifecycle-analyzer [-h] --model MODEL [--catalog CATALOG]",
    "                          [--settings SETTINGS] [--out OUT]",
    "                          [--workers WORKERS] [--include-tests]",
    "                          [--scope \x7blifecycle,project\x7d] [--verbose]",
    ""]

/-- (helpText) says what the program does and what its flags mean. -/
def helpText : Text :=
  usage ++ Text.joinWith "\n" [
    "",
    "HarmonyOS ArkTS lifecycle analyzer",
    "",
    "options:",
    "  -h, --help            show this help message and exit",
    "  --model MODEL         Path to the program model JSON export",
    "  --catalog CATALOG     Catalog version (v1-minimal, v2-framework,",
    "                        v3-framework) or path",
    "  --settings SETTINGS   Settings YAML path",
    "  --out OUT             Artifacts output directory",
    "  --workers WORKERS     Worker threads for classification and scanning",
    "  --include-tests       Analyze files under test paths too",
    "  --scope \x7blifecycle,project\x7d",
    "                        Undefined-value sweep over lifecycle methods only, or",
    "                        over every project method",
    "  --verbose             Enable debug logging",
    ""]

/-- (override name value) overrides an option by a value, if there is one. -/
def override (name : Text) (value : Option Json) : Json.Fields :=
  value.toList.map fun value => (name, value)

/-- (telling value) is a value given on the command line, none if it says nothing. -/
def telling (value : Option Json) : Option Json :=
  value.filter Json.truthy

/-- (overrides options) are the options of the analysis that the command line gives. -/
def overrides (options : Options) : Json.Fields :=
  override "catalog" (telling (options.catalog.map Json.text))
    ++ override "artifacts_dir" (telling (options.out.map Json.text))
    ++ override "workers" (telling (options.workers.map Json.int))
    ++ override "skip_test_files" (if options.includeTests then some (.bool false) else none)
    ++ override "scope" (options.scope.map fun scope => .text scope.name)

/-- (applyOverrides settings options) lays options over the settings. -/
def applyOverrides : Json.Fields → Json.Fields → Except Fault Json.Fields
  | settings, [] => .ok settings
  | settings, (name, value) :: rest => do
      applyOverrides (← Settings.setOption settings name value) rest

/-- (settingsFor environment tree options) are the settings of a run from the command line. -/
def settingsFor (environment : List (Text × Text)) (tree : FileTree) (options : Options)
    : Except Fault Json := do
  let settings ← Settings.load tree (some options.settings) environment
  let settings := Json.object (← applyOverrides settings (overrides options))
  let _ ← Settings.exportsSpans environment settings
  return settings

/-- (requestFor options) is what the run is asked for; all else stands in the settings. -/
def requestFor (options : Options) : RunRequest :=
  { modelPath := .text options.model, catalog := .null, outDir := .null, workers := .null }

/-- (analyze host environment options stamp) runs the analysis and gives its summary. -/
def analyze (host : Host) (environment : List (Text × Text)) (options : Options)
    (stamp : RunStamp)
    : RunStep Text := do
  let settings ← settingsFor environment (← get).tree options
  let report ← Run.run host settings (requestFor options) stamp
  Summary.render report

/-- (execute host environment tree stamp arguments) is what the program does. -/
def execute (host : Host) (environment : List (Text × Text)) (tree : FileTree)
    (stamp : RunStamp) (arguments : List Text)
    : Outcome :=
  match Options.read arguments with
  | .error .help => ⟨.help, .fresh, tree⟩
  | .error (.misuse misuse) => ⟨.misuse misuse, .fresh, tree⟩
  | .ok options =>
      let (result, state) := (analyze host environment options stamp).run ⟨.fresh, tree, none⟩
      match result with
      | .ok text => ⟨.summary text, state.session, state.tree⟩
      | .error fault => ⟨.failure fault, state.session, state.tree⟩

namespace Ending

/-- (exitCode ending) tells the caller whether all went well. -/
def exitCode : Ending → Nat
  | .summary _ | .help => 0
  | .failure _ => 1
  | .misuse _ => 2

/-- (output ending) is what the program prints. -/
def output : Ending → Text
  | .summary text => text
  | .help => helpText
  | .misuse _ | .failure _ => ""

/-- (complaint ending) is what the program says went wrong. -/
def complaint : Ending → Text
  | .summary _ | .help => ""
  | .misuse wrong => usage ++ wrong.errorLine ++ "\n"
  | .failure fault => programName ++ ": " ++ fault.message ++ "\n"

end Ending

end ArkLifecycle.CommandLine
