import ArkLifecycle.Catalog.Basic
import ArkLifecycle.Json.Display

/-! The built-in catalogs.

Three versions pin the callback names of the framework: a small one with the callbacks in common
use, one with all entry methods of abilities and components, and one that adds the callbacks of
UI events and the entry decorator.
-/

namespace ArkLifecycle.Catalog

-----------------------------------------------------------------------------------------
-- Callback names

/-- (commonAbility) are the ability callbacks in common use. -/
def commonAbility : List Text :=
  [
    "onCreate", "onDestroy", "onWindowStageCreate", "onWindowStageDestroy", "onForeground",
    "onBackground", "onNewWant", "onConfigurationUpdate", "onBackPressed",
    "onWindowStageWillDestroy", "onContinue", "onSaveState"]

/-- (allAbility) are the ability callbacks of the framework. -/
def allAbility : List Text :=
  [
    "onCreate", "onDestroy", "onWindowStageCreate", "onWindowStageDestroy", "onForeground",
    "onBackground", "onBackup", "onRestore", "onContinue", "onNewWant", "onDump",
    "onSaveState", "onShare", "onPrepareToTerminate", "onBackPressed", "onSessionCreate",
    "onSessionDestory", "onAddForm", "onCastToNormalForm", "onUpdateForm",
    "onChangeFormVisibility", "onFormEvent", "onRemoveForm", "onConfigurationUpdate",
    "onAcquireFormState", "onWindowStageWillDestroy"]

/-- (commonComponent) are the component callbacks in common use. -/
def commonComponent : List Text :=
  [
    "aboutToAppear", "aboutToDisappear", "onPageShow", "onPageHide", "onBackPress",
    "onDidBuild", "aboutToReuse", "aboutToRecycle", "onWillApplyTheme", "onLayout",
    "onMeasure", "onMeasureSize", "onFormRecycle", "onFormRecover"]

/-- (allComponent) are the component callbacks of the framework. -/
def allComponent : List Text :=
  [
    "build", "aboutToAppear", "aboutToDisappear", "aboutToReuse", "aboutToRecycle",
    "onWillApplyTheme", "onLayout", "onPlaceChildren", "onMeasure", "onMeasureSize",
    "onPageShow", "onPageHide", "onFormRecycle", "onFormRecover", "onBackPress",
    "pageTransition", "onDidBuild"]

/-- (uiEvents) are the callbacks of UI events. -/
def uiEvents : List Text :=
  [
    "onClick", "onTouch", "onAppear", "onDisAppear", "onDragStart", "onDragEnter",
    "onDragMove", "onDragLeave", "onDrop", "onKeyEvent", "onFocus", "onBlur", "onHover",
    "onMouse", "onAreaChange", "onVisibleAreaChange"]

-----------------------------------------------------------------------------------------
-- What tells the role of a class

/-- (commonBases) are the ability base classes in common use. -/
def commonBases : List Text :=
  [
    "UIAbility", "Ability", "UIExtensionAbility"]

/-- (allBases) are the ability base classes of the framework. -/
def allBases : List Text :=
  [
    "UIAbility", "Ability", "UIExtensionAbility", "FormExtensionAbility",
    "BackupExtensionAbility", "ServiceExtensionAbility"]

/-- (componentBaseNames) are the base classes of UI components. -/
def componentBaseNames : List Text := ["CustomComponent", "ViewPU"]

/-- (generatedPatterns) occur in the names of classes that a front end generates. -/
def generatedPatterns : List Text := ["_DEFAULT_", "%AC", "%dflt"]

/-- (advice) are the callbacks worth implementing. -/
def advice : List Recommendation :=
  [
    ⟨"onBackPress", .component, "Handle the back key for a better user experience"⟩,
    ⟨"aboutToReuse", .component, "Component reuse, improves performance"⟩,
    ⟨"aboutToRecycle", .component, "Component recycling, improves performance"⟩,
    ⟨"onNewWant", .ability, "Handle a new Want so the app can be re-launched"⟩,
    ⟨"onConfigurationUpdate", .ability, "React to system configuration changes"⟩,
    ⟨"onDidBuild", .component, "Post-build processing"⟩,
    ⟨"onWillApplyTheme", .component, "Theme switching support"⟩
  ]

/-- (adviceBefore) is the number of recommendations of the older catalogs. -/
def adviceBefore : Nat := 5

-----------------------------------------------------------------------------------------
-- Versions

/-- (ofTexts values) are texts as names. -/
def ofTexts (values : List Text) : List Scalar :=
  values.map Scalar.text

/-- (patternsOf values) are texts as markers or patterns. -/
def patternsOf (values : List Text) : List Json :=
  values.map Json.text

/-- (minimal) is the catalog of the callbacks in common use. -/
def minimal : Catalog where
  version := "v1-minimal"
  names
    | .ability => ofTexts commonAbility
    | .component => ofTexts commonComponent
    | .callback => []
  abilityBases := ofTexts commonBases
  componentBases := ofTexts componentBaseNames
  componentMarkers := patternsOf ["Component"]
  entryMarkers := []
  syntheticPatterns := patternsOf generatedPatterns
  weakSignals := true
  recommendations := advice.take adviceBefore

/-- (framework) is the catalog of all entry methods. -/
def framework : Catalog where
  version := "v2-framework"
  names
    | .ability => ofTexts allAbility
    | .component => ofTexts allComponent
    | .callback => []
  abilityBases := ofTexts allBases
  componentBases := ofTexts componentBaseNames
  componentMarkers := patternsOf ["Component"]
  entryMarkers := []
  syntheticPatterns := patternsOf generatedPatterns
  weakSignals := false
  recommendations := advice.take adviceBefore

/-- (frameworkWithEvents) adds UI events and the entry decorator. -/
def frameworkWithEvents : Catalog where
  version := "v3-framework"
  names
    | .ability => ofTexts allAbility
    | .component => ofTexts allComponent
    | .callback => ofTexts uiEvents
  abilityBases := ofTexts allBases
  componentBases := ofTexts componentBaseNames
  componentMarkers := patternsOf ["Component"]
  entryMarkers := patternsOf ["Entry"]
  syntheticPatterns := patternsOf generatedPatterns
  weakSignals := false
  recommendations := advice

/-- (versions) lists the built-in catalogs, from small to large. -/
def versions : List Catalog := [minimal, framework, frameworkWithEvents]

/-- (standard) is the catalog of an analysis that names none. -/
def standard : Catalog := frameworkWithEvents

/-- (builtin? version) is the built-in catalog of a version. -/
def builtin? (version : Text) : Option Catalog :=
  versions.find? fun catalog => catalog.version == version

/-- (builtin version) is the built-in catalog of a version, which must exist. -/
def builtin (version : Json) : Except Fault Catalog :=
  let unknown : Except Fault Catalog := do
    throw (.unknownCatalog (← version.quoted) (versions.map Catalog.version))
  match version with
  | .text name =>
      match builtin? name with
      | some catalog => .ok catalog
      | none => unknown
  | .scalar _ => unknown
  | v => .error (.notAName v.shape)

end ArkLifecycle.Catalog
