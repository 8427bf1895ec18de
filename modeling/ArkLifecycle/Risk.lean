import ArkLifecycle.Invocation

/-! Signs of undefined values in rendered statements.

A statement of a lifecycle callback yields at most one match, and the signs are tried in order
of weight. A statement met by the project sweep yields a hit for every pattern it shows.
-/

namespace ArkLifecycle

/-- How grave a finding is. -/
inductive Severity where
  | high
  | medium
  | low
deriving DecidableEq, Repr, Inhabited

/-- (Severity.name severity) is the word that reports use. -/
def Severity.name : Severity → Text
  | .high => "high"
  | .medium => "medium"
  | .low => "low"

/-- (Severity.all) lists the severities from grave to light. -/
def Severity.all : List Severity := [.high, .medium, .low]

/-- How sure a finding is. Weak signs are looked for only when asked. -/
inductive Confidence where
  | normal
  | weak
deriving DecidableEq, Repr, Inhabited

/-- (Confidence.name confidence) is the word that reports use. -/
def Confidence.name : Confidence → Text
  | .normal => "normal"
  | .weak => "weak"

namespace Risk

/-- What one statement of a callback shows. -/
structure Match where
  severity : Severity
  description : Text
  confidence : Confidence
deriving DecidableEq, Repr, Inhabited

/-- One pattern that a statement of the project shows. -/
structure Hit where
  subject : Text
  severity : Severity
  description : Text
deriving DecidableEq, Repr, Inhabited

/-- (isIndexed c) holds of the characters that can end an indexed expression. -/
def isIndexed (c : Letter) : Bool :=
  Text.isWord c || c == '%' || c == '$' || c == ')' || c == ']'

/-- (indexes cs) holds when an index, not empty and closed, follows an opening bracket. -/
def indexes : List Letter → Bool
  | [] => false
  | c :: rest => c != ']' && rest.contains ']'

/-- (hasIndexAccess cs) holds when an expression in `cs` is followed by a bracketed index. -/
def hasIndexAccess : List Letter → Bool
  | [] => false
  | c :: rest =>
      (match rest with
        | .char '[' :: index => isIndexed c && indexes index
        | _ => false)
      || hasIndexAccess rest

/-- (readsArray text) holds when the text loads or indexes an array. -/
def readsArray (text : Text) : Bool :=
  Text.contains text "arrayload" || hasIndexAccess text.toList

/-- (readsField text) holds when the text loads a field. -/
def readsField (text : Text) : Bool :=
  Text.contains text "fieldload"

/-- (assess weak text) is the gravest sign in the statement; weak signs count when asked. -/
def assess (weak : Bool) (text : Text) : Option Match :=
  let snippet := Text.takeText Invocation.labelLimit text
  if Text.contains text "undefined" then
    some ⟨.high, "Possible undefined variable access: " ++ snippet, .normal⟩
  else if Text.contains text "null" then
    some ⟨.medium, "Possible undefined variable access: " ++ snippet, .normal⟩
  else if readsField text && Text.contains text "?" then
    some ⟨.low, "Possible undefined field access: " ++ snippet, .normal⟩
  else if !weak then
    none
  else if readsArray text then
    some ⟨.low, "Array access may be out of bounds and yield undefined: " ++ snippet, .weak⟩
  else if Text.contains text "?." then
    some ⟨.low, "Optional chaining may yield undefined: " ++ snippet, .weak⟩
  else
    none

/-- (patterns text) are the project-wide patterns in the statement, each reported on its own. -/
def patterns (text : Text) : List Hit :=
  (if Text.contains text "undefined" then
    [⟨"value", .high, "Possible use of an undefined value"⟩]
  else
    [])
  ++ (if readsField text && Text.contains text "null" then
    [⟨"field", .medium, "Possible null field access"⟩]
  else
    [])
  ++ (if Text.contains text "arrayload" then
    [⟨"array element", .low, "Array access may be out of bounds and yield undefined"⟩]
  else
    [])

end Risk

end ArkLifecycle
