import ArkLifecycle.Classification
import ArkLifecycle.Record

/-! Finding the lifecycle callbacks of a program.

The files are walked in order, with or without those that hold tests, and generated classes are
left out. Every method whose name the catalog lists for the role of its class gives one record,
of the first kind that lists it. A class about whose methods a question was denied gives none.
-/

namespace ArkLifecycle

/-- The lifecycle callbacks of a program, the roles of its classes, and counts. -/
structure Identification where
  records : List Record
  roles : List (Text × Role)
  totalFiles : Nat
  totalClasses : Nat
  totalMethods : Nat
  abilityClasses : Nat
  componentClasses : Nat
  skippedFiles : Nat
  skippedClasses : Nat
deriving Repr, Inhabited

/-- The classes that are examined, and how much was left out. -/
structure Candidates where
  classes : List ClassDecl
  skippedFiles : Nat
  skippedClasses : Nat
deriving Repr, Inhabited

namespace Identification

/-- (splitGenerated catalog classes) divides classes into those that are examined and the number
of generated ones.
-/
def splitGenerated (catalog : Catalog) : List ClassDecl → Except Fault (List ClassDecl × Nat)
  | [] => .ok ([], 0)
  | decl :: rest => do
      let synthetic ← Classification.isSynthetic catalog decl
      let (kept, skipped) ← splitGenerated catalog rest
      return if synthetic then (kept, skipped + 1) else (decl :: kept, skipped)

/-- (isSkipped skipTests file) holds of test files when they are to be left out. -/
def isSkipped (skipTests : Bool) (file : SourceFile) : Bool :=
  skipTests && isTestPath file.path

/-- (candidates catalog skipTests files) are the classes that are examined. -/
def candidates (catalog : Catalog) (skipTests : Bool) (files : List SourceFile)
    : Except Fault Candidates := do
  let kept := files.filter (!isSkipped skipTests ·)
  let (classes, skippedClasses) ← splitGenerated catalog (Program.classesOf kept)
  return { classes, skippedClasses, skippedFiles := files.length - kept.length }

/-- (recordFor host catalog decl kinds method) is the record of a method, of the first kind that
lists its name.
-/
def recordFor (host : Host) (catalog : Catalog) (decl : ClassDecl) (kinds : List Kind)
    (method : Method)
    : Activity (Option Record) := do
  match kinds.find? fun kind => catalog.recognizes kind method.name with
  | none => return none
  | some kind =>
      let cfg ← Activity.bodyOf host method
      return some {
        methodName := method.name
        kind
        className := decl.name
        filePath := decl.filePath
        line := method.line
        hasImplementation := Method.isImplemented cfg
        signature := method.signature
        method := some method }

/-- (recordsFor host catalog decl kinds methods) are the records of methods in order. -/
def recordsFor (host : Host) (catalog : Catalog) (decl : ClassDecl) (kinds : List Kind)
    : List Method → Activity (List Record)
  | [] => return []
  | method :: rest => do
      let record ← recordFor host catalog decl kinds method
      let more ← recordsFor host catalog decl kinds rest
      return record.toList ++ more

/-- (kindsOf catalog role) are the kinds of callbacks that a class of the role can have. -/
def kindsOf (catalog : Catalog) (role : Role) : List Kind :=
  if role = .none then [] else catalog.kindsFor role

/-- (classRecords host catalog decl role) are the records of a class and the number of its
methods.
-/
def classRecords (host : Host) (catalog : Catalog) (decl : ClassDecl) (role : Role)
    : Activity (List Record × Nat) := do
  let methods ← Activity.methodsOf host decl
  let records ← recordsFor host catalog decl (kindsOf catalog role) methods
  return (records, methods.length)

/-- (classifyAll host program catalog classes) are the roles of classes in order. -/
def classifyAll (host : Host) (program : Program) (catalog : Catalog)
    : List ClassDecl → Activity (List (ClassDecl × Role))
  | [] => return []
  | decl :: rest => do
      let role ← Classification.classify host program catalog decl
      let more ← classifyAll host program catalog rest
      return (decl, role) :: more

/-- (putRole roles name role) notes the role of a class; of classes with one name the last one is
noted.
-/
def putRole (roles : List (Text × Role)) (name : Text) (role : Role)
    : List (Text × Role) :=
  Json.put roles name role

/-- (addClass result decl role) counts a class and notes its role. -/
def addClass (result : Identification) (decl : ClassDecl) (role : Role) : Identification :=
  { result with
    totalClasses := result.totalClasses + 1
    roles := putRole result.roles decl.name role
    abilityClasses := result.abilityClasses + (if role = .entryContainer then 1 else 0)
    componentClasses := result.componentClasses + (if role = .uiComponent then 1 else 0) }

/-- (collect host catalog result classes) adds the records of classes one after the other; a class
that fails adds none.
-/
def collect (host : Host) (catalog : Catalog)
    : Identification → List (ClassDecl × Role) → Activity Identification
  | result, [] => return result
  | result, (decl, role) :: rest => do
      let result := result.addClass decl role
      match ← Activity.attempt (classRecords host catalog decl role) with
      | .ok (records, methods) =>
          collect host catalog
            { result with
              records := result.records ++ records
              totalMethods := result.totalMethods + methods }
            rest
      | .error _ => collect host catalog result rest

/-- (identify host program catalog skipTests) finds the lifecycle callbacks of a program. It fails
only when a pattern of the catalog is no text.
-/
def identify (host : Host) (program : Program) (catalog : Catalog) (skipTests : Bool)
    : Activity Identification := do
  let candidates ← candidates catalog skipTests program.files
  let classified ← classifyAll host program catalog candidates.classes
  collect host catalog
    { records := []
      roles := []
      totalFiles := program.files.length
      totalClasses := 0
      totalMethods := 0
      abilityClasses := 0
      componentClasses := 0
      skippedFiles := candidates.skippedFiles
      skippedClasses := candidates.skippedClasses }
    classified

/-- (fields found) are the counts, the roles of the classes and the callbacks, for a JSON document.
-/
def fields (found : Identification) : Json.Fields :=
  [("total_files", .ofNat found.totalFiles),
    ("total_classes", .ofNat found.totalClasses),
    ("total_methods", .ofNat found.totalMethods),
    ("ability_classes", .ofNat found.abilityClasses),
    ("component_classes", .ofNat found.componentClasses),
    ("skipped_files", .ofNat found.skippedFiles),
    ("skipped_classes", .ofNat found.skippedClasses),
    ("roles", .object (found.roles.map fun (name, role) => (name, .text role.name))),
    ("records", .array (found.records.map Record.toJson))]

end Identification

end ArkLifecycle
