import ArkLifecycle.Yaml.Stamp

/-! What kind of value a scalar is.

A node says by a tag what kind of value it is. A plain scalar without one is null, a truth value, a
number, a day or a moment when it is spelled as one, and a text otherwise. Integers may be
binary, octal, decimal, hexadecimal or counted in sixties; a floating-point number needs a point.
Two more spellings have a meaning as keys only. Here a line end may follow any of the spellings.
-/

namespace ArkLifecycle.Yaml

/-- What kind of value a node is. -/
inductive Tag where
  | null
  | bool
  | int
  | float
  | bytes
  | stamp
  | text
  | list
  | mapping
  /-- A list of pairs with names, or of any pairs. -/
  | pairs
  | set
  /-- A key that takes over the fields of other mappings. -/
  | merge
  /-- A key for the value that a mapping stands for. -/
  | value
  | unknown
deriving DecidableEq, Repr, Inhabited

/-- (standardTags) lists the names of the kinds of values there are. -/
def standardTags : List (String × Tag) :=
  [("null", .null), ("bool", .bool), ("int", .int), ("float", .float), ("binary", .bytes),
    ("timestamp", .stamp), ("str", .text), ("seq", .list), ("map", .mapping), ("omap", .pairs),
    ("pairs", .pairs), ("set", .set), ("merge", .merge), ("value", .value)]

/-- (standardStem) is how the full names of these kinds begin. -/
def standardStem : String := "tag:yaml.org,2002:"

/-- (Tag.ofName name) is the kind of value with a full name. -/
def Tag.ofName (name : String) : Tag :=
  match standardTags.find? fun known => standardStem ++ known.1 == name with
  | some (_, tag) => tag
  | none => .unknown

-----------------------------------------------------------------------------------------
-- Spellings

/-- (nullWords) are the spellings of null. -/
def nullWords : List String := ["~", "null", "Null", "NULL"]

/-- (boolWords) are the spellings of truth values. -/
def boolWords : List String :=
  ["yes", "Yes", "YES", "no", "No", "NO", "true", "True", "TRUE", "false", "False", "FALSE",
    "on", "On", "ON", "off", "Off", "OFF"]

/-- (unsigned cs) is a number without its sign. -/
def unsigned : List Char → List Char
  | '-' :: rest => rest
  | '+' :: rest => rest
  | cs => cs

/-- (isDigitOf base c) holds of the digits of a base up to sixteen. -/
def isDigitOf (base : Nat) (c : Char) : Bool :=
  match Json.hexDigit? c with
  | some value => value < base
  | none => false

/-- (allDigits base cs) holds when `cs` consists of digits and underscores, at least one. -/
def allDigits (base : Nat) (cs : List Char) : Bool :=
  !cs.isEmpty && cs.all fun c => isDigitOf base c || c == '_'

/-- (isSixtieth part) holds of the two-digit parts below sixty. -/
def isSixtieth (part : List Char) : Bool :=
  match part with
  | [c] => c.isDigit
  | [c, d] => '0' ≤ c && c ≤ '5' && d.isDigit
  | _ => false

/-- (partsAt mark items) are the parts of a list between its marks. -/
def partsAt {α : Type} [BEq α] (mark : α) (items : List α) : List (List α) :=
  items.foldr
    (fun item parts =>
      if item == mark then
        [] :: parts
      else
        match parts with
        | [] => [[item]]
        | part :: more => (item :: part) :: more)
    [[]]

/-- (isInSixties parts) holds of the digits of a number to the base sixty, at least two. -/
def isInSixties (parts : List (List Char)) : Bool :=
  match parts with
  | first :: next :: rest => allDigits 10 first && (next :: rest).all isSixtieth
  | _ => false

/-- (startsWithDigit cs) holds when the first character is a digit. -/
def startsWithDigit : List Char → Bool
  | c :: _ => c.isDigit
  | [] => false

/-- (isInteger cs) holds of the spellings of integers. -/
def isInteger (cs : List Char) : Bool :=
  match unsigned cs with
  | ['0'] => true
  | '0' :: 'b' :: digits => allDigits 2 digits
  | '0' :: 'x' :: digits => allDigits 16 digits
  | '0' :: digits => allDigits 8 digits
  | digits =>
      startsWithDigit digits && (allDigits 10 digits || isInSixties (partsAt ':' digits))

/-- (isExponent cs) holds of an exponent with its sign, and of nothing at all. -/
def isExponent : List Char → Bool
  | [] => true
  | e :: sign :: digits =>
      (e == 'e' || e == 'E') && (sign == '-' || sign == '+')
        && !digits.isEmpty && digits.all Char.isDigit
  | _ => false

/-- (isDigitOrUnderscore c) holds of decimal digits and underscores. -/
def isDigitOrUnderscore (c : Char) : Bool :=
  c.isDigit || c == '_'

/-- (isPointed signed cs) holds of the spellings of numbers with a point. Without digits before the
point there must be one after it, and no sign.
-/
def isPointed (signed : Bool) (cs : List Char) : Bool :=
  match cs.span fun c => isDigitOrUnderscore c || c == ':' with
  | (whole, '.' :: rest) =>
      let (part, rest) := rest.span isDigitOrUnderscore
      match partsAt ':' whole with
      | [whole] =>
          (startsWithDigit whole || (whole.isEmpty && !signed && startsWithDigit part))
            && isExponent rest
      | parts => startsWithDigit whole && rest.isEmpty && isInSixties parts
  | _ => false

/-- (infinityWords) are the spellings of infinity, without a sign. -/
def infinityWords : List String := [".inf", ".Inf", ".INF"]

/-- (undefinedWords) are the spellings of the undefined number. -/
def undefinedWords : List String := [".nan", ".NaN", ".NAN"]

/-- (isFloat cs) holds of the spellings of floating-point numbers. -/
def isFloat (cs : List Char) : Bool :=
  infinityWords.contains (String.ofList (unsigned cs))
    || undefinedWords.contains (String.ofList cs)
    || isPointed (cs.length != (unsigned cs).length) (unsigned cs)

/-- (signWords) are single signs that are reserved. -/
def signWords : List String := ["!", "&", "*"]

/-- (Tag.ofChars cs) is the kind of value that characters spell. A line end alone is a text. -/
def Tag.ofChars (cs : List Char) : Tag :=
  let spelling := withoutFinalBreak cs
  let word := String.ofList spelling
  if spelling.isEmpty then
    if cs.isEmpty then .null else .text
  else if nullWords.contains word then
    .null
  else if boolWords.contains word then
    .bool
  else if isFloat spelling then
    .float
  else if isInteger spelling then
    .int
  else if word == "<<" then
    .merge
  else if word == "=" then
    .value
  else if signWords.contains word then
    .unknown
  else
    match stampText? cs with
    | some written => if written.isPlain then .stamp else .text
    | none => .text

/-- (Tag.ofPlain s) is the kind of value that a plain scalar spells. -/
def Tag.ofPlain (s : Text) : Tag :=
  match s.chars? with
  | some cs => .ofChars cs
  | none => .text

end ArkLifecycle.Yaml
