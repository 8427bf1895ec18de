import ArkLifecycle.Files.Tree
import ArkLifecycle.Json.Access
import ArkLifecycle.Yaml.Document

/-! Settings in layers: defaults, a file, the environment.

A section of the file is merged into the default section of the same name when both are
mappings, and replaces it otherwise. The environment overrides the catalog and the output
directory.
-/

namespace ArkLifecycle.Settings

/-- (defaults) are the settings without a file. -/
def defaults : Json.Fields :=
  [("analysis", .object [
      ("catalog", .text "v3-framework"),
      ("artifacts_dir", .text "artifacts"),
      ("skip_test_files", .bool true),
      ("workers", .int 1),
      ("max_callgraph_nodes", .null),
      ("validate_model", .bool true),
      ("scope", .text "lifecycle")]),
    ("observability", .object [("enabled", .bool true)]),
    ("telemetry", .object [
      ("enabled", .bool false),
      ("service_name", .text "lifecycle-analyzer")])]

/-- (mergeSection settings section values) lays one section of a file over the settings. -/
def mergeSection (settings : Json.Fields) (section_ : Scalar) (values : Json)
    : Json.Fields :=
  match values.fields?, (Json.lookup settings section_).bind Json.fields? with
  | some more, some known => Json.put settings section_ (.object (Json.merge known more))
  | _, _ => Json.put settings section_ values

/-- (overlay settings loaded) lays the sections of a file over the settings. -/
def overlay (settings loaded : Json.Fields) : Json.Fields :=
  loaded.foldl (fun settings field => mergeSection settings field.1 field.2) settings

/-- (readFile tree written) are the sections in a settings file; an empty one has none. -/
def readFile (tree : FileTree) (written : Text) : Except Fault Json.Fields := do
  let v ← Yaml.parse (← tree.read (.ofText written))
  if v.truthy then
    match v.fields? with
    | some fields => return fields
    | none => throw (.settingsNotMapping written)
  else
    return []

/-- (setOption settings name value) gives an option of the analysis a value. -/
def setOption (settings : Json.Fields) (name : Scalar) (value : Json)
    : Except Fault Json.Fields := do
  let analysis := (Json.lookup settings "analysis").getD (.object [])
  return Json.put settings "analysis" (← analysis.withPart name value)

/-- (environmentOptions) are the variables that override an option. -/
def environmentOptions : List (Text × Text) :=
  [("LIFECYCLE_CATALOG", "catalog"), ("LIFECYCLE_OUTPUT_DIR", "artifacts_dir")]

/-- (applyEnvironment environment settings options) lets variables that are set and not empty
override options.
-/
def applyEnvironment (environment : List (Text × Text))
    : Json.Fields → List (Text × Text) → Except Fault Json.Fields
  | settings, [] => .ok settings
  | settings, (variable_, option) :: rest => do
      match Json.lookup environment variable_ with
      | some value =>
          if value.isEmpty then
            applyEnvironment environment settings rest
          else
            applyEnvironment environment (← setOption settings option (.text value)) rest
      | none => applyEnvironment environment settings rest

/-- (load tree path environment) are the settings of a run. A file that does not exist counts as
no file.
-/
def load (tree : FileTree) (path : Option Text) (environment : List (Text × Text))
    : Except Fault Json.Fields := do
  let loaded ←
    match path with
    | none => pure []
    | some written =>
        if ← tree.contains (.ofText written) then readFile tree written else pure []
  applyEnvironment environment (overlay defaults loaded) environmentOptions

/-- (exportsSpans environment settings) holds when spans are to be sent somewhere: that must be
enabled and the place known.
-/
def exportsSpans (environment : List (Text × Text)) (settings : Json)
    : Except Fault Bool := do
  let nothing : Json := .object []
  let conf ← if settings.truthy then settings.fieldD "telemetry" nothing else .ok nothing
  let enabled ← conf.fieldD "enabled" .null
  if !enabled.truthy then
    return false
  else
    let endpoint ← conf.fieldD "otlp_endpoint" .null
    return endpoint.truthy
      || !((Json.lookup environment "OTEL_EXPORTER_OTLP_ENDPOINT").getD "").isEmpty

end ArkLifecycle.Settings
