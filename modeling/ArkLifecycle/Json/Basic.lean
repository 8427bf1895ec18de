import ArkLifecycle.Calendar
import ArkLifecycle.Number.Binary64

/-! Documents.

A document is a scalar, a list or a mapping. Integers are unbounded and are told apart from
floating-point numbers. The fields of a mapping keep the order in which they were first
written, and every name stands once. A name is a scalar: JSON texts have texts as names, other
notations also numbers, truth values and null. Other notations also write bytes, days, moments,
pairs and sets, and documents that stand inside of themselves; JSON has no spelling for most of
these. A document that stands inside of itself has no end, and so it is kept as a place among
numbered layers.
-/

namespace ArkLifecycle

/-- (stackDepth) is how many calls may be open at a time. No document says so: it is a parameter of
the machine that runs an analysis, and the only one. Documents are read and written by calls inside
of calls, so every bound on their depth is derived from it.
-/
def stackDepth : Nat := 1000

/-- A value that may name something: a callback, a class, a key. -/
inductive Scalar where
  | null
  | bool (value : Bool)
  | int (value : Int)
  | float (value : Binary64)
  | text (value : Text)
  | bytes (value : List Nat)
  | date (value : Date)
  | moment (value : Moment)
  /-- Two names together are a name. -/
  | pair (first second : Scalar)
deriving DecidableEq, Repr, Inhabited

/-- The shapes a document can have at its root. -/
inductive Shape where
  | null
  | bool
  | int
  | float
  | text
  | bytes
  | date
  | moment
  | pair
  | array
  | object
  | set
deriving DecidableEq, Repr, Inhabited

/-- One layer of a document. Parts that are documents are given by the numbers of their layers. -/
inductive Layer where
  | scalar (value : Scalar)
  | array (items : List Nat)
  | object (fields : List (Scalar × Nat))
  /-- A list of pairs. -/
  | pairs (pairs : List (Nat × Nat))
  | set (members : List Scalar)
deriving Repr, Inhabited

/-- A document. -/
inductive Json where
  | scalar (value : Scalar)
  | array (items : List Json)
  | object (fields : List (Scalar × Json))
  /-- Two documents that belong together. -/
  | pair (first second : Json)
  /-- Names without values, in the order in which they were first written. -/
  | set (members : List Scalar)
  /-- The document at a place among layers that comes back to itself or to one of its parts. -/
  | cyclic (layers : Array Layer) (place : Nat)
  /-- Here a document of the given shape that stands around it begins again. -/
  | again (shape : Shape)
deriving Repr, Inhabited

/-- The fields of a mapping, in order. -/
abbrev Json.Fields := List (Scalar × Json)

/-- Values that name something, with when two of them are the same name. -/
class Name (κ : Type) where
  same : κ → κ → Bool

namespace Scalar

/-- (shape s) is the shape of the scalar `s`. -/
def shape : Scalar → Shape
  | .null => .null
  | .bool _ => .bool
  | .int _ => .int
  | .float _ => .float
  | .text _ => .text
  | .bytes _ => .bytes
  | .date _ => .date
  | .moment _ => .moment
  | .pair .. => .pair

/-- (truthy s) holds of every scalar but null, false, the zeros, the empty text and no bytes. -/
def truthy : Scalar → Bool
  | .null => false
  | .bool value => value
  | .int value => value != 0
  | .float value => !value.isZero
  | .text value => !value.isEmpty
  | .bytes value => !value.isEmpty
  | .date _ | .moment _ | .pair .. => true

/-- (asInt? s) is the integer that `s` counts as: truth values count as one and zero. -/
def asInt? : Scalar → Option Int
  | .bool value => some (if value then 1 else 0)
  | .int value => some value
  | _ => none

/-- (sameNumber s t) holds of numbers of equal value, whatever their shape. -/
def sameNumber (s t : Scalar) : Bool :=
  match s.asInt?, t.asInt?, s, t with
  | some m, some n, _, _ => m == n
  | some m, none, _, .float y => y.eqInt m
  | none, some n, .float x, _ => x.eqInt n
  | none, none, .float x, .float y => x.sameNumber y
  | _, _, _, _ => false

/-- (same s t) holds when `s` and `t` are the same name: numbers of equal value are the same, and
so are moments that are the same point in time.
-/
def same : Scalar → Scalar → Bool
  | .moment m, .moment n => m.same n
  | .pair a b, .pair c d => same a c && same b d
  | s, t => s.sameNumber t || s == t

/-- A scalar names what another one of equal value names. -/
instance : Name Scalar := ⟨same⟩

/-- A text is a scalar. -/
instance : Coe Text Scalar := ⟨text⟩

/-- (distinct names) keeps the first occurrence of every name, in order. -/
def distinct (names : List Scalar) : List Scalar :=
  (names.foldl (fun kept name => if kept.any (same name) then kept else name :: kept) []).reverse

end Scalar

namespace Layer

/-- (shape layer) is the shape of the document that begins with a layer. -/
def shape : Layer → Shape
  | .scalar value => value.shape
  | .array _ | .pairs _ => .array
  | .object _ => .object
  | .set _ => .set

/-- (ofPlace layers place) is the layer at a place; where there is none stands null. -/
def ofPlace (layers : Array Layer) (place : Nat) : Layer :=
  layers.getD place (.scalar .null)

end Layer

namespace Json

/-- (depthLimit) is how deep lists and mappings may be nested in a text that is read or written: a
call for each, below ten that are open already.
-/
def depthLimit : Nat := stackDepth - 10

/-- (null) is the document null. -/
@[match_pattern] abbrev null : Json := .scalar .null

/-- (bool value) is a truth value. -/
@[match_pattern] abbrev bool (value : Bool) : Json := .scalar (.bool value)

/-- (int value) is an integer. -/
@[match_pattern] abbrev int (value : Int) : Json := .scalar (.int value)

/-- (float value) is a floating-point number. -/
@[match_pattern] abbrev float (value : Binary64) : Json := .scalar (.float value)

/-- (text value) is a text. -/
@[match_pattern] abbrev text (value : Text) : Json := .scalar (.text value)

/-- (ofNat n) is the natural number `n` as a document. -/
def ofNat (n : Nat) : Json := .int n

/-- (ofPair first second) is a pair of documents; two names are one name. -/
def ofPair : Json → Json → Json
  | .scalar first, .scalar second => .scalar (.pair first second)
  | first, second => .pair first second

/-- (ofOption f value) writes an absent value as null. -/
def ofOption {α : Type} (f : α → Json) : Option α → Json
  | none => null
  | some value => f value

/-- (texts values) is a list of texts. -/
def texts (values : List Text) : Json :=
  .array (values.map text)

/-- (shape v) is the shape of `v` at its root. -/
def shape : Json → Shape
  | .scalar value => value.shape
  | .array _ => .array
  | .object _ => .object
  | .pair .. => .pair
  | .set _ => .set
  | .cyclic layers place => (Layer.ofPlace layers place).shape
  | .again shape => shape

/-- (truthy v) holds of every document but null, false, the zeros and the empty ones. -/
def truthy : Json → Bool
  | .scalar value => value.truthy
  | .array items => !items.isEmpty
  | .object fields => !fields.isEmpty
  | .pair .. => true
  | .set members => !members.isEmpty
  | .cyclic .. | .again _ => true

/-- (isText v s) holds when `v` is exactly the text `s`. -/
def isText (v : Json) (s : Text) : Bool :=
  match v with
  | .text value => value == s
  | _ => false

end Json

/-- Texts are the same name when they are equal. -/
instance : Name Text := ⟨(· == ·)⟩

/-- (lookup fields name) is the value of the first field of that name. -/
def Json.lookup {κ α : Type} [Name κ] (fields : List (κ × α)) (name : κ) : Option α :=
  (fields.find? fun field => Name.same field.1 name).map Prod.snd

/-- (put fields name value) gives the field `name` a new value where it stands, or adds it at
the end. A field that stands keeps its name as it was first written.
-/
def Json.put {κ α : Type} [Name κ] (fields : List (κ × α)) (name : κ) (value : α)
    : List (κ × α) :=
  if fields.any (fun field => Name.same field.1 name) then
    fields.map fun field => if Name.same field.1 name then (field.1, value) else field
  else
    fields ++ [(name, value)]

/-- (merge fields more) puts the fields `more` one after the other. -/
def Json.merge {κ α : Type} [Name κ] (fields more : List (κ × α)) : List (κ × α) :=
  more.foldl (fun acc field => Json.put acc field.1 field.2) fields

end ArkLifecycle
