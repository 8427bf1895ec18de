import ArkLifecycle.Text.Basic

/-! Searching, cutting and joining of texts.

The patterns of this library are read by hand from left to right, so all of them rest on a
few operations: whether a pattern occurs, what stands before and after the first or last
occurrence of a letter, and the pieces between separators.
-/

namespace ArkLifecycle.Text

/-- (occursIn pattern letters) holds when `pattern` is a contiguous part of `letters`. -/
def occursIn (pattern : List Letter) : List Letter → Bool
  | [] => pattern.isEmpty
  | letter :: rest => pattern.isPrefixOf (letter :: rest) || occursIn pattern rest

/-- (contains s pattern) holds when the text `pattern` occurs in the text `s`. -/
def contains (s pattern : Text) : Bool :=
  occursIn pattern.toList s.toList

/-- (beforeFirst stop letters) cuts `letters` around the first `stop`, and is `none` without
one.
-/
def beforeFirst (stop : Letter) : List Letter → Option (List Letter × List Letter)
  | [] => none
  | letter :: rest =>
      if letter == stop then
        some ([], rest)
      else
        (beforeFirst stop rest).map fun (head, tail) => (letter :: head, tail)

/-- (beforeLast stop letters) cuts `letters` around the last `stop`, and is `none` without one.
-/
def beforeLast (stop : Letter) : List Letter → Option (List Letter × List Letter)
  | [] => none
  | letter :: rest =>
      match beforeLast stop rest with
      | some (head, tail) => some (letter :: head, tail)
      | none => if letter == stop then some ([], rest) else none

/-- (afterLast stop letters) is what follows the last `stop`, or all without one. -/
def afterLast (stop : Letter) (letters : List Letter) : List Letter :=
  match beforeLast stop letters with
  | some (_, tail) => tail
  | none => letters

/-- (pieces stop letters) are the parts of `letters` between the occurrences of `stop`; there is
always at least one.
-/
def pieces (stop : Letter) : List Letter → List (List Letter)
  | [] => [[]]
  | letter :: rest =>
      if letter == stop then
        [] :: pieces stop rest
      else
        match pieces stop rest with
        | [] => [[letter]]
        | piece :: more => (letter :: piece) :: more

/-- (piecesOf stop s) are the parts of the text `s` between its occurrences of `stop`. -/
def piecesOf (stop : Letter) (s : Text) : List Text :=
  (pieces stop s.toList).map Text.ofList

/-- (joinWith separator parts) writes the parts one after the other, with the separator
between neighbours.
-/
def joinWith (separator : Text) : List Text → Text
  | [] => ""
  | [part] => part
  | part :: rest => part ++ separator ++ joinWith separator rest

/-- (takeText n s) is the first `n` letters of `s`, or all of it when it is shorter. -/
def takeText (n : Nat) (s : Text) : Text :=
  ⟨s.toList.take n⟩

/-- (padEnd width s) fills `s` with spaces at its end up to `width` letters. -/
def padEnd (width : Nat) (s : Text) : Text :=
  ⟨s.toList ++ List.replicate (width - s.length) (Letter.char ' ')⟩

/-- (startsWith s lead) holds when the text `s` begins with the text `lead`. -/
def startsWith (s lead : Text) : Bool :=
  lead.toList.isPrefixOf s.toList

end ArkLifecycle.Text
