/-! A position in a YAML text.

The cursor knows what is left of the text, and the line, column and index of the next
character. Beyond the end the next character is NUL, which a text cannot hold.
-/

namespace ArkLifecycle.Yaml

/-- A position in a text, with the rest of the text from there on. -/
structure Cursor where
  rest : List Char
  line : Nat
  column : Nat
  index : Nat
deriving Repr, Inhabited

/-- (isBreak c) holds of the characters that end a line. -/
def isBreak (c : Char) : Bool :=
  c == '\n' || c == '\r' || c == '\u0085' || c == '\u2028' || c == '\u2029'

/-- (isEnd c) holds of line ends and of the end of the text. -/
def isEnd (c : Char) : Bool :=
  c == '\x00' || isBreak c

/-- (isGap c) holds of spaces, tabs, line ends and the end of the text. -/
def isGap (c : Char) : Bool :=
  c == ' ' || c == '\t' || isEnd c

/-- (isAllowed c) holds of the characters that a text may hold. -/
def isAllowed (c : Char) : Bool :=
  let n := c.toNat
  n == 0x09 || n == 0x0a || n == 0x0d || (0x20 ≤ n && n ≤ 0x7e) || n == 0x85
    || (0xa0 ≤ n && n ≤ 0xfffd) || 0x10000 ≤ n

namespace Cursor

/-- (ofText cs) is the position before the first character. -/
def ofText (cs : List Char) : Cursor :=
  ⟨cs, 0, 0, 0⟩

/-- (peek cursor) is the next character, and NUL at the end. -/
def peek (cursor : Cursor) : Char :=
  cursor.rest.headD '\x00'

/-- (peekAt cursor n) is the character `n` places after the next one. -/
def peekAt (cursor : Cursor) (n : Nat) : Char :=
  (cursor.rest.drop n).headD '\x00'

/-- (advance cursor) passes the next character. -/
def advance (cursor : Cursor) : Cursor :=
  match cursor.rest with
  | [] => cursor
  | c :: rest =>
      if isBreak c && !(c == '\r' && rest.head? == some '\n') then
        ⟨rest, cursor.line + 1, 0, cursor.index + 1⟩
      else if c == '\ufeff' then
        ⟨rest, cursor.line, cursor.column, cursor.index + 1⟩
      else
        ⟨rest, cursor.line, cursor.column + 1, cursor.index + 1⟩

/-- (skip n cursor) passes the next `n` characters. -/
def skip : Nat → Cursor → Cursor
  | 0, cursor => cursor
  | n + 1, cursor => skip n cursor.advance

/-- (takeWhile p cursor) reads the longest run of characters with the property `p`. -/
def takeWhile (p : Char → Bool) (cursor : Cursor) : List Char × Cursor :=
  let run := cursor.rest.takeWhile p
  (run, skip run.length cursor)

/-- (skipWhile p cursor) passes the longest run of characters with the property `p`. -/
def skipWhile (p : Char → Bool) (cursor : Cursor) : Cursor :=
  (cursor.takeWhile p).2

/-- (lineBreak cursor) reads one line end, if there is one. All but the two Unicode separators
read as a line feed.
-/
def lineBreak (cursor : Cursor) : List Char × Cursor :=
  match cursor.rest with
  | '\r' :: '\n' :: _ => (['\n'], skip 2 cursor)
  | c :: _ =>
      if c == '\u2028' || c == '\u2029' then
        ([c], cursor.advance)
      else if isBreak c then
        (['\n'], cursor.advance)
      else
        ([], cursor)
  | [] => ([], cursor)

/-- (atSeparator cursor) holds where three dashes or three dots stand alone, as they do between
documents.
-/
def atSeparator (cursor : Cursor) : Bool :=
  match cursor.rest with
  | '-' :: '-' :: '-' :: rest => isGap (rest.headD '\x00')
  | '.' :: '.' :: '.' :: rest => isGap (rest.headD '\x00')
  | _ => false

end Cursor

end ArkLifecycle.Yaml
