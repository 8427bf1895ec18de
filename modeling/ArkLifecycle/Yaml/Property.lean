import ArkLifecycle.Yaml.Token

/-! Properties of nodes, and directives.

An anchor names a node and an alias refers to a named one. A tag says what kind of value a node is,
either in full or by a handle that stands for the beginning of the tag. A directive stands on a line
of its own before a document.
-/

namespace ArkLifecycle.Yaml

/-- (isNameChar c) holds of the characters of names: letters, digits, dashes and underscores. -/
def isNameChar (c : Char) : Bool :=
  c.isAlphanum || c == '-' || c == '_'

/-- (endsWord c) holds of spaces, line ends and the end of the text. -/
def endsWord (c : Char) : Bool :=
  c == ' ' || isEnd c

/-- (nodeName cursor) reads the name of a node after its ampersand or star. -/
def nodeName (cursor : Cursor) : Option (String × Cursor) :=
  let (name, cursor) := cursor.takeWhile isNameChar
  let next := cursor.peek
  if !name.isEmpty && (isGap next || "?:,]\x7d%@\x60".toList.contains next) then
    some (String.ofList name, cursor)
  else
    none

-----------------------------------------------------------------------------------------
-- Tags

/-- (isUriChar c) holds of the characters that a tag may have. -/
def isUriChar (c : Char) : Bool :=
  c.isAlphanum || "-;/?:@&=+$,_.!~*'()[]%".toList.contains c

/-- (escapedBytes fuel cursor) reads bytes that are written as percent signs and two hexadecimal
digits.
-/
def escapedBytes : Nat → Cursor → Option (List UInt8 × Cursor)
  | 0, cursor => some ([], cursor)
  | fuel + 1, cursor =>
      match cursor.rest with
      | '%' :: a :: b :: _ => do
          let high ← Json.hexDigit? a
          let low ← Json.hexDigit? b
          let (more, cursor) ← escapedBytes fuel (Cursor.skip 3 cursor)
          return (UInt8.ofNat (16 * high + low) :: more, cursor)
      | '%' :: _ => none
      | _ => some ([], cursor)

/-- (uriRun fuel cursor) reads the longest run that may belong to a tag. Escaped bytes must be
UTF-8.
-/
def uriRun : Nat → Cursor → Option (List Char × Cursor)
  | 0, cursor => some ([], cursor)
  | fuel + 1, cursor =>
      if cursor.peek == '%' then do
        let (bytes, cursor) ← escapedBytes (cursor.rest.length + 1) cursor
        let part ← String.fromUTF8? bytes.toByteArray
        let (more, cursor) ← uriRun fuel cursor
        return (part.toList ++ more, cursor)
      else if isUriChar cursor.peek then do
        let c := cursor.peek
        let (more, cursor) ← uriRun fuel cursor.advance
        return (c :: more, cursor)
      else
        some ([], cursor)

/-- (uri cursor) reads a tag, or the end of one; there must be something to read. -/
def uri (cursor : Cursor) : Option (String × Cursor) := do
  let (run, cursor) ← uriRun (cursor.rest.length + 1) cursor
  if run.isEmpty then none else some (String.ofList run, cursor)

/-- (handle cursor) reads a handle: a name between two exclamation marks, or one of them before a
space.
-/
def handle (cursor : Cursor) : Option (String × Cursor) :=
  if cursor.peek != '!' then
    none
  else if cursor.peekAt 1 == ' ' then
    some ("!", cursor.advance)
  else
    let (name, cursor) := cursor.advance.takeWhile isNameChar
    if cursor.peek == '!' then
      some (String.ofList ('!' :: name ++ ['!']), cursor.advance)
    else
      none

/-- (tagParts cursor) reads a tag from its exclamation mark on: in angle brackets in full, alone,
or with a handle.
-/
def tagParts (cursor : Cursor) : Option (Option String × String × Cursor) :=
  let next := cursor.peekAt 1
  if next == '<' then do
    let (full, cursor) ← uri (Cursor.skip 2 cursor)
    if cursor.peek == '>' then some (none, full, cursor.advance) else none
  else if isGap next then
    some (none, "!", cursor.advance)
  else do
    let word := cursor.advance.rest.takeWhile fun c => !endsWord c
    let (handle, cursor) ←
      if word.contains '!' then handle cursor else some ("!", cursor.advance)
    let (suffix, cursor) ← uri cursor
    return (some handle, suffix, cursor)

/-- (tagToken cursor) reads a tag, after which a word ends. -/
def tagToken (cursor : Cursor) : Option (Token × Cursor) := do
  let (handle, suffix, cursor) ← tagParts cursor
  if endsWord cursor.peek then some (.tag handle suffix, cursor) else none

-----------------------------------------------------------------------------------------
-- Directives

/-- (skipBlanks cursor) passes spaces. -/
def skipBlanks (cursor : Cursor) : Cursor :=
  cursor.skipWhile (· == ' ')

/-- (numeral cursor) reads a number of limited length. -/
def numeral (cursor : Cursor) : Except Fault (Nat × Cursor) :=
  let (digits, cursor) := cursor.takeWhile Char.isDigit
  if digits.isEmpty then
    .error .malformedYaml
  else if Fault.numeralLimit < digits.length then
    .error (.integerTooLong digits.length)
  else
    .ok (Json.digitsValue digits, cursor)

/-- (versionValue cursor) reads a version: two numbers with a point between them. -/
def versionValue (cursor : Cursor) : Except Fault (Token × Cursor) := do
  let (major, cursor) ← numeral (skipBlanks cursor)
  if cursor.peek != '.' then
    throw .malformedYaml
  let (_, cursor) ← numeral cursor.advance
  if endsWord cursor.peek then return (.versionDirective major, cursor) else throw .malformedYaml

/-- (tagValue cursor) reads a handle and what it stands for. -/
def tagValue (cursor : Cursor) : Option (Token × Cursor) := do
  let (handle, cursor) ← handle (skipBlanks cursor)
  if cursor.peek != ' ' then
    none
  let (stands, cursor) ← uri (skipBlanks cursor)
  if endsWord cursor.peek then some (.tagDirective handle stands, cursor) else none

/-- (directiveEnd cursor) passes the rest of the line of a directive, in which only a comment may
stand.
-/
def directiveEnd (cursor : Cursor) : Option Cursor :=
  let cursor := skipBlanks cursor
  let cursor := if cursor.peek == '#' then cursor.skipWhile fun c => !isEnd c else cursor
  if isEnd cursor.peek then some cursor.lineBreak.2 else none

/-- (wellFormed found) is what was read, if anything was. -/
def wellFormed {α : Type} : Option α → Except Fault α
  | some found => .ok found
  | none => .error .malformedYaml

/-- (directive cursor) reads a directive from its percent sign on, with the end of its line. -/
def directive (cursor : Cursor) : Except Fault (Token × Cursor) := do
  let (name, cursor) := cursor.advance.takeWhile isNameChar
  if name.isEmpty || !endsWord cursor.peek then
    throw .malformedYaml
  let (token, cursor) ←
    match String.ofList name with
    | "YAML" => versionValue cursor
    | "TAG" => wellFormed (tagValue cursor)
    | _ => pure (.otherDirective, cursor.skipWhile fun c => !isEnd c)
  return (token, ← wellFormed (directiveEnd cursor))

end ArkLifecycle.Yaml
