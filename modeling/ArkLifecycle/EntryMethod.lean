import ArkLifecycle.Record

/-! The virtual entry method.

The framework calls the implemented callbacks of a program. A method that no class declares
stands for the framework and calls each of them once.
-/

namespace ArkLifecycle

/-- A method that is known only by its signature and the methods it calls. -/
structure SyntheticMethod (ν : Type := Text) where
  signature : ν
  calls : List ν
deriving DecidableEq, Repr, Inhabited

namespace EntryMethod

/-- (name) is the name of the entry method. -/
def name : Text := "@dummyMain"

/-- (className) is the name of the class the entry method seems to belong to. -/
def className : Text := "@dummyClass"

/-- (file) is the name of the file the entry method seems to stand in. -/
def file : Text := "@dummyFile"

/-- (key) is the short name of the entry method in reports. -/
def key : Text := Signature.methodKey className name

/-- (signature) is the signature of the entry method. -/
def signature : Text := Signature.render ⟨file, className, name, ""⟩

/-- (callsOf records) are the signatures of the implemented callbacks in order. -/
def callsOf {κ : Type} (records : List (Record κ)) : List κ :=
  (records.filter Record.hasImplementation).map Record.signature

/-- (ofRecords records) is the entry method that calls the implemented callbacks in order. -/
def ofRecords (records : List Record) : SyntheticMethod :=
  { signature := signature
    calls := callsOf records }

end EntryMethod

end ArkLifecycle
