import ArkLifecycle.Fault
import ArkLifecycle.Json.Cycle
import ArkLifecycle.Number.Shortest

/-! Documents as messages and summaries show them.

Null is `None`, truth values are `True` and `False`, numbers stand as they are, lists are in
square brackets, pairs in parentheses, and mappings and sets in braces. Dots stand where a document
begins again inside of itself. Inside a document every
text is quoted; a text that stands alone may also be shown without quotes. An integer with too many
digits cannot be shown, and neither can a document with one in it.
-/

namespace ArkLifecycle

/-- (Text.ofInt n) writes an integer, unless it has too many digits. -/
def Text.ofInt (n : Int) : Except Fault Text :=
  if n.natAbs < Nat.pow 10 Fault.numeralLimit then
    .ok (if n < 0 then "-" ++ Text.ofNat n.natAbs else Text.ofNat n.natAbs)
  else
    .error .integerTooLongToShow

/-- (Scalar.quoted s) shows a scalar, a text with its quotes. -/
def Scalar.quoted : Scalar → Except Fault Text
  | .null => .ok "None"
  | .bool value => .ok (if value then "True" else "False")
  | .int value => Text.ofInt value
  | .float value => .ok value.shortestText
  | .text value => .ok value.quoted
  | .bytes value => .ok (Text.quotedBytes value)
  | .date value => .ok value.quoted
  | .moment value => .ok value.quoted
  | .pair first second => do
      return "(" ++ (← first.quoted) ++ ", " ++ (← second.quoted) ++ ")"

namespace Json

/-- (dots shape) stands for a document that begins again. -/
def dots : Shape → Text
  | .object => "\x7b...\x7d"
  | _ => "[...]"

mutual

/-- (quotedTree v) shows a document that was spread, every text with its quotes. -/
def quotedTree : Json → Except Fault Text
  | .scalar value => value.quoted
  | .array items => do
      return "[" ++ Text.joinWith ", " (← quotedItems items) ++ "]"
  | .object fields => do
      return "\x7b" ++ Text.joinWith ", " (← quotedFields fields) ++ "\x7d"
  | .pair first second => do
      return "(" ++ (← quotedTree first) ++ ", " ++ (← quotedTree second) ++ ")"
  | .set [] => .ok "set()"
  | .set members => do
      return "\x7b" ++ Text.joinWith ", " (← members.mapM Scalar.quoted) ++ "\x7d"
  | .cyclic layers place => .ok (dots (Layer.ofPlace layers place).shape)
  | .again shape => .ok (dots shape)

/-- (quotedItems items) shows the items of a list. -/
def quotedItems : List Json → Except Fault (List Text)
  | [] => .ok []
  | item :: rest => do
      let shown ← quotedTree item
      return shown :: (← quotedItems rest)

/-- (quotedFields fields) shows the fields of a mapping. -/
def quotedFields : List (Scalar × Json) → Except Fault (List Text)
  | [] => .ok []
  | (name, value) :: rest => do
      let shown := (← name.quoted) ++ ": " ++ (← quotedTree value)
      return shown :: (← quotedFields rest)

end

/-- (quoted v) shows a document, every text with its quotes. -/
def quoted (v : Json) : Except Fault Text :=
  quotedTree v.spread

/-- (display v) shows a document; a text, a day or a moment that stands alone is shown as it is. -/
def display : Json → Except Fault Text
  | .text value => .ok value
  | .scalar (.date value) => .ok value.display
  | .scalar (.moment value) => .ok value.display
  | v => v.quoted

end Json

end ArkLifecycle
