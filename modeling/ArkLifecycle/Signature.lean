import ArkLifecycle.Text.Blank
import ArkLifecycle.Text.Search

/-! Method signatures.

A signature is written `@file: Class.method(parameters)`, and may be wrapped in angle brackets.
The file ends at the first colon, the parameters begin at the first parenthesis after it, and
the last dot between the two divides the class from the method.
-/

namespace ArkLifecycle

/-- The four parts of a method signature. The class is empty for a free function. -/
structure Signature where
  file : Text
  className : Text
  method : Text
  parameters : Text
deriving DecidableEq, Repr, Inhabited

namespace Signature

/-- (unwrapChars cs) drops the blanks around `cs`, one pair of angle brackets around the rest,
and the blanks inside that pair.
-/
def unwrapChars (cs : List Letter) : List Letter :=
  match Text.trim cs with
  | .char '<' :: rest =>
      if rest.getLast? = some (.char '>') then Text.trim rest.dropLast else .char '<' :: rest
  | rest => rest

/-- (normalize s) is the signature text `s` without angle brackets and blanks around it. -/
def normalize (s : Text) : Text :=
  Text.ofList (unwrapChars s.toList)

/-- (splitOwner name) divides the text between the colon and the parenthesis into class and
method. The method must not be empty, where a blank counts only if it stands alone.
-/
def splitOwner (name : List Letter) : Option (List Letter × List Letter) :=
  match Text.beforeLast '.' name with
  | some (_, []) => none
  | some (className, method) => some (className, method)
  | none => if name.isEmpty then none else some ([], name)

/-- (splitParameters cs) takes the closing parenthesis off the end of `cs`; the parameters stand
on one line.
-/
def splitParameters (cs : List Letter) : Option (List Letter) :=
  if cs.getLast? = some (.char ')') ∧ Letter.char '\n' ∉ cs then some cs.dropLast else none

/-- (parse? s) are the parts of the signature text `s`, and `none` when it is no signature. -/
def parse? (s : Text) : Option Signature :=
  match unwrapChars s.toList with
  | .char '@' :: rest => do
      let (file, rest) ← Text.beforeFirst ':' rest
      let (name, rest) ← Text.beforeFirst '(' rest
      let (className, method) ← splitOwner name
      let parameters ← splitParameters rest
      return {
        file := Text.ofList (Text.trim file)
        className := Text.ofList (Text.trim className)
        method := Text.ofList (Text.trim method)
        parameters := Text.ofList (Text.trim parameters) }
  | _ => none

/-- (render signature) writes a signature from its parts. -/
def render (signature : Signature) : Text :=
  "@" ++ signature.file ++ ": " ++ signature.className ++ "." ++ signature.method
    ++ "(" ++ signature.parameters ++ ")"

/-- (methodName s) is the method that the text `s` names. A text that is no signature but has a
parenthesis names what stands before it, after the last dot and colon; any other text is the
name itself.
-/
def methodName (s : Text) : Text :=
  match parse? s with
  | some signature => signature.method
  | none =>
      let cs := unwrapChars s.toList
      match Text.beforeFirst '(' cs with
      | some (head, _) =>
          Text.ofList (Text.trim (Text.afterLast ':' (Text.afterLast '.' head)))
      | none => Text.ofList cs

/-- (classNameOf s) is the class that the text `s` names, empty when it is no signature. -/
def classNameOf (s : Text) : Text :=
  match parse? s with
  | some signature => signature.className
  | none => ""

/-- (methodKey className method) is the short name of a method in reports. -/
def methodKey (className method : Text) : Text :=
  className ++ "." ++ method

/-- (embeddedHere? cs) reads an embedded signature whose opening bracket was just read: an at
sign, then anything up to the first closing bracket, which follows a parenthesis.
-/
def embeddedHere? : List Letter → Option (List Letter)
  | .char '@' :: rest =>
      match Text.beforeFirst '>' rest with
      | some (body, _) =>
          if 2 ≤ body.length ∧ body.getLast? = some (.char ')') then
            some (.char '@' :: body)
          else
            none
      | none => none
  | _ => none

/-- (embeddedChars? cs) is the first signature in angle brackets inside `cs`. -/
def embeddedChars? : List Letter → Option (List Letter)
  | [] => none
  | c :: rest =>
      if c == '<' then
        match embeddedHere? rest with
        | some found => some found
        | none => embeddedChars? rest
      else
        embeddedChars? rest

/-- (embedded? s) is the first signature in angle brackets inside the text `s`. -/
def embedded? (s : Text) : Option Text :=
  (embeddedChars? s.toList).map Text.ofList

end Signature

end ArkLifecycle
