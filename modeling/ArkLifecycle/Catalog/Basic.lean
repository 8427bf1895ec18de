import ArkLifecycle.Role

/-! Catalogs of lifecycle callbacks.

A catalog lists the callback names of every kind, and what tells the role of a class: the names
of framework base classes, decorators, and patterns in the names of generated classes. Entries
that were written by hand need not be texts.
-/

namespace ArkLifecycle

/-- A callback worth implementing, and why. -/
structure Recommendation where
  name : Text
  kind : Kind
  reason : Text
deriving DecidableEq, Repr, Inhabited

/-- A catalog of lifecycle callbacks. -/
structure Catalog where
  version : Text
  names : Kind → List Scalar
  abilityBases : List Scalar
  componentBases : List Scalar
  componentMarkers : List Json
  entryMarkers : List Json
  syntheticPatterns : List Json
  weakSignals : Bool
  recommendations : List Recommendation
deriving Inhabited

namespace Catalog

/-- (recognizes catalog kind name) holds when the catalog lists the name among its kind. -/
def recognizes (catalog : Catalog) (kind : Kind) (name : Scalar) : Bool :=
  (catalog.names kind).any fun known => known.same name

/-- (kindsFor catalog role) are the kinds of a role for which the catalog lists a name. -/
def kindsFor (catalog : Catalog) (role : Role) : List Kind :=
  Kind.all.filter fun kind => kind.role = role ∧ !(catalog.names kind).isEmpty

/-- (roleRecognizes catalog role name) holds when a kind of the role lists the name. -/
def roleRecognizes (catalog : Catalog) (role : Role) (name : Scalar) : Bool :=
  (catalog.kindsFor role).any fun kind => catalog.recognizes kind name

/-- (size catalog kind) is the number of names of a kind. -/
def size (catalog : Catalog) (kind : Kind) : Nat :=
  (catalog.names kind).length

/-- (markers catalog) are all decorators of UI components. -/
def markers (catalog : Catalog) : List Json :=
  catalog.componentMarkers ++ catalog.entryMarkers

/-- (describe catalog) says which catalog it is and how large its parts are. -/
def describe (catalog : Catalog) : Json :=
  .object [
    ("version", .text catalog.version),
    ("sizes", .object (Kind.all.map fun kind => (kind.name, .ofNat (catalog.size kind))))]

end Catalog

end ArkLifecycle
