import ArkLifecycle.Json.Display
import ArkLifecycle.Text.Pieces

/-! Documents shown in lines of limited width.

A document that fits stands on one line. Otherwise the items of a list and the fields of a mapping
stand on lines of their own, below each other, and a text is cut between its words. What has no
parts is never broken.
-/

namespace ArkLifecycle.Json

/-- (lineWidth) is the width of a line. -/
def lineWidth : Nat := 72

/-- (room indent allowance) is how much fits between an indentation and what follows. It may be
less than nothing.
-/
def room (indent allowance : Nat) : Int :=
  lineWidth - indent - allowance

/-- (fits indent allowance shown) holds when a text has room. -/
def fits (indent allowance : Nat) (shown : Text) : Bool :=
  shown.length ≤ room indent allowance

/-- (newLine indent) begins a line. -/
def newLine (indent : Nat) : Text :=
  "\n" ++ Text.ofList (List.replicate indent (' ' : Letter))

/-- (fillLines indent allowance current words) puts as many words on a line as fit; only the last
one leaves room for what follows.
-/
def fillLines (indent allowance : Nat) (current : Text) : List Text → List Text
  | [] => if current.isEmpty then [] else [current.quoted]
  | word :: rest =>
      let more := current ++ word
      let after := if rest.isEmpty then allowance else 0
      if fits indent after more.quoted then
        fillLines indent allowance more rest
      else if current.isEmpty then
        fillLines indent allowance word rest
      else
        current.quoted :: fillLines indent allowance word rest

/-- (textLines indent allowance lines) shows the lines of a text, each cut where it is too long. -/
def textLines (indent allowance : Nat) : List Text → List Text
  | [] => []
  | line :: rest =>
      let after := if rest.isEmpty then allowance else 0
      let shown :=
        if fits indent after line.quoted then [line.quoted]
        else fillLines indent after "" line.words
      shown ++ textLines indent allowance rest

/-- (wrappedText isWhole indent allowance s) shows a text that is too long for a line; one that is
the whole document stands in parentheses.
-/
def wrappedText (isWhole : Bool) (indent allowance : Nat) (s : Text) : Text :=
  let around := if isWhole then 1 else 0
  match textLines (indent + around) (allowance + around) s.lines with
  | [] | [_] => s.quoted
  | shown =>
      let inside := Text.joinWith (newLine (indent + around)) shown
      if isWhole then "(" ++ inside ++ ")" else inside

mutual

/-- (wrapped isWhole indent allowance v) shows a document after an indentation, with room for what
follows.
-/
def wrapped (isWhole : Bool) (indent allowance : Nat) (v : Json) : Except Fault Text := do
  let shown ← v.quoted
  if fits indent allowance shown then
    return shown
  else
    match v with
    | .array items =>
        return "[" ++ Text.joinWith ("," ++ newLine (indent + 1))
          (← wrappedItems (indent + 1) (allowance + 1) items) ++ "]"
    | .object fields =>
        return "\x7b" ++ Text.joinWith ("," ++ newLine (indent + 1))
          (← wrappedFields (indent + 1) (allowance + 1) fields) ++ "\x7d"
    | .text s => return wrappedText isWhole indent allowance s
    | _ => return shown

/-- (wrappedItems indent allowance items) shows the items of a list, each on lines of its own. -/
def wrappedItems (indent allowance : Nat) : List Json → Except Fault (List Text)
  | [] => .ok []
  | item :: rest => do
      let shown ← wrapped false indent (if rest.isEmpty then allowance else 1) item
      return shown :: (← wrappedItems indent allowance rest)

/-- (wrappedFields indent allowance fields) shows the fields of a mapping, each on lines of its
own.
-/
def wrappedFields (indent allowance : Nat) : List (Scalar × Json) → Except Fault (List Text)
  | [] => .ok []
  | (name, value) :: rest => do
      let name ← name.quoted
      let shown ← wrapped false (indent + name.length + 2)
        (if rest.isEmpty then allowance else 1) value
      return (name ++ ": " ++ shown) :: (← wrappedFields indent allowance rest)

end

/-- (inLines margin v) shows a document in lines, those after the first behind a margin, which
takes nothing from their width.
-/
def inLines (margin : Text) (v : Json) : Except Fault Text :=
  return Text.joinWith ("\n" ++ margin) (Text.piecesOf '\n' (← wrapped true 0 0 v))

end ArkLifecycle.Json
