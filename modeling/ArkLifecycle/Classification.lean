import ArkLifecycle.Catalog.Basic
import ArkLifecycle.Session

/-! The role of a class in the framework.

A class is an entry container when it, or a class it descends from, extends an ability base. It
is a UI component when it extends a component base or carries one of the markers. Generated
classes have no role, and neither has a class about which a question was denied.
-/

namespace ArkLifecycle

/-- (ancestorsFrom program visited fuel decl) follows superclass links up to a class that is
missing or whose name was visited before.
-/
def Program.ancestorsFrom (program : Program) (visited : List Text)
    : Nat → ClassDecl → List ClassDecl
  | 0, _ => []
  | fuel + 1, decl =>
      match program.superclass? decl with
      | none => []
      | some parent =>
          if visited.contains parent.name then
            []
          else
            parent :: program.ancestorsFrom (parent.name :: visited) fuel parent

/-- (ancestors program decl) are the classes that `decl` descends from, the nearest first. Their
names differ from each other, so there are no more of them than classes.
-/
def Program.ancestors (program : Program) (decl : ClassDecl) : List ClassDecl :=
  program.ancestorsFrom [decl.name] program.classes.length decl

namespace Classification

/-- (occurs name patterns) holds when one of the patterns occurs in the name. -/
def occurs (name : Text) : List Json → Except Fault Bool
  | [] => .ok false
  | .text pattern :: rest => if Text.contains name pattern then .ok true else occurs name rest
  | v :: _ => .error (.notAPattern v.shape)

/-- (isSynthetic catalog decl) holds of classes that a front end generated. -/
def isSynthetic (catalog : Catalog) (decl : ClassDecl) : Except Fault Bool :=
  occurs decl.name catalog.syntheticPatterns

/-- (extendsOne bases decl) holds when the class directly extends one of the bases. -/
def extendsOne (bases : List Scalar) (decl : ClassDecl) : Bool :=
  bases.contains (.text decl.superclass)

/-- (anyAncestor host test decl ancestors) asks for one superclass after the other, until the test
holds of one or there are no more.
-/
def anyAncestor (host : Host) (test : ClassDecl → Bool)
    : ClassDecl → List ClassDecl → Activity Bool
  | decl, [] => do
      Activity.ask host (.superclass decl)
      return false
  | decl, parent :: rest => do
      Activity.ask host (.superclass decl)
      if test parent then return true else anyAncestor host test parent rest

/-- (isEntryContainer host program catalog decl) holds when the class or one of its ancestors
extends an ability base.
-/
def isEntryContainer (host : Host) (program : Program) (catalog : Catalog) (decl : ClassDecl)
    : Activity Bool := do
  let test := extendsOne catalog.abilityBases
  if test decl then return true else anyAncestor host test decl (program.ancestors decl)

/-- (carriesOne host decl markers) holds when the class is decorated with one of the markers. -/
def carriesOne (host : Host) (decl : ClassDecl) : List Json → Activity Bool
  | [] => return false
  | marker :: rest => do
      if ← Activity.carries host decl marker then return true else carriesOne host decl rest

/-- (isUiComponent host catalog decl) holds when the class extends a component base or carries a
marker.
-/
def isUiComponent (host : Host) (catalog : Catalog) (decl : ClassDecl) : Activity Bool := do
  if extendsOne catalog.componentBases decl then
    return true
  else
    carriesOne host decl catalog.markers

/-- (roleOf host program catalog decl) is the role of a class; it fails when a question about the
class is denied.
-/
def roleOf (host : Host) (program : Program) (catalog : Catalog) (decl : ClassDecl)
    : Activity Role := do
  if ← isSynthetic catalog decl then
    return .none
  else if ← isEntryContainer host program catalog decl then
    return .entryContainer
  else if ← isUiComponent host catalog decl then
    return .uiComponent
  else
    return .none

/-- (classify host program catalog decl) is the role of a class, none when it cannot be told. -/
def classify (host : Host) (program : Program) (catalog : Catalog) (decl : ClassDecl)
    : Activity Role := do
  match ← Activity.attempt (roleOf host program catalog decl) with
  | .ok role => return role
  | .error _ => return .none

end Classification

end ArkLifecycle
