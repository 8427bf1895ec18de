import ArkLifecycle.Json.Basic

/-! The roles of classes in the framework, and the kinds of callbacks that go with them. -/

namespace ArkLifecycle

/-- What a class is to the framework. -/
inductive Role where
  /-- The framework does not know the class. -/
  | none
  /-- The framework starts the application by the class. -/
  | entryContainer
  /-- The framework shows the class. -/
  | uiComponent
deriving DecidableEq, Repr, Inhabited

/-- The partitions of a catalog of callbacks. -/
inductive Kind where
  | ability
  | component
  | callback
deriving DecidableEq, Repr, Inhabited

namespace Role

/-- (name role) is the word for a role in reports. -/
def name : Role → Text
  | .none => "none"
  | .entryContainer => "framework_entry_container"
  | .uiComponent => "ui_component"

/-- (all) lists the roles. -/
def all : List Role := [.none, .entryContainer, .uiComponent]

end Role

namespace Kind

/-- (name kind) is the word for a kind in catalogs and reports. -/
def name : Kind → Text
  | .ability => "ability"
  | .component => "component"
  | .callback => "callback"

/-- (all) lists the kinds in the order in which they take precedence. -/
def all : List Kind := [.ability, .component, .callback]

/-- (role kind) is the role of the classes that have callbacks of the kind. -/
def role : Kind → Role
  | .ability => .entryContainer
  | .component => .uiComponent
  | .callback => .uiComponent

/-- (ofJson? v) is the kind that a document names. -/
def ofJson? (v : Json) : Option Kind :=
  all.find? fun kind => v.isText kind.name

end Kind

/-- One value for each kind of callback. -/
structure KindTable (α : Type) where
  ability : α
  component : α
  callback : α
deriving Repr, Inhabited

namespace KindTable

/-- (ofFn f) is the table of the values of `f`. -/
def ofFn {α : Type} (f : Kind → α) : KindTable α :=
  ⟨f .ability, f .component, f .callback⟩

/-- (get table kind) is the value for a kind. -/
def get {α : Type} (table : KindTable α) : Kind → α
  | .ability => table.ability
  | .component => table.component
  | .callback => table.callback

/-- (set table kind value) replaces the value for a kind. -/
def set {α : Type} (table : KindTable α) (kind : Kind) (value : α) : KindTable α :=
  match kind with
  | .ability => { table with ability := value }
  | .component => { table with component := value }
  | .callback => { table with callback := value }

end KindTable

end ArkLifecycle
