import ArkLifecycle.Yaml.Property

/-! From characters to tokens: the layout of a YAML text.

Indentation opens and closes blocks. Whether a scalar or a bracket begins a key is known only
when a colon follows on its line, so places where a key may have begun are remembered, one for
each depth of brackets, and the key token is inserted when the colon comes. A token is settled when
no key can begin at it or before it any more.
-/

namespace ArkLifecycle.Yaml

/-- A place where a key may have begun. It must have begun there when `required` holds. -/
structure KeyPlace where
  tokens : Nat
  required : Bool
  line : Nat
  column : Nat
  index : Nat
deriving Repr, Inhabited

/-- The state of the walk over a text. `indent` is the column of the innermost block and
`outer` are those around it. `places` lists the possible keys, the innermost brackets first, and
`settled` counts the tokens that were settled before the one that is being read.
-/
structure Layout where
  cursor : Cursor
  tokens : Array Token
  depth : Nat
  indent : Int
  outer : List Int
  keyAllowed : Bool
  places : List (Option KeyPlace)
  settled : Nat
deriving Inhabited

namespace Layout

/-- (ofText cs) is the state before the first character. -/
def ofText (cs : List Char) : Layout :=
  ⟨.ofText cs, #[], 0, -1, [], true, [none], 0⟩

/-- (inFlow layout) holds inside brackets. -/
def inFlow (layout : Layout) : Bool :=
  layout.depth != 0

/-- (emit layout token) adds a token. -/
def emit (layout : Layout) (token : Token) : Layout :=
  { layout with tokens := layout.tokens.push token }

/-- (place layout) is the possible key at the current depth. -/
def place (layout : Layout) : Option KeyPlace :=
  (layout.places.headD none)

/-- (setPlace layout place) replaces the possible key at the current depth. -/
def setPlace (layout : Layout) (place : Option KeyPlace) : Layout :=
  { layout with places := place :: layout.places.drop 1 }

/-- (keyLimit) is how far a colon may be from the beginning of its key. -/
def keyLimit : Nat := 1024

/-- (isStale layout place) holds when no colon can belong to the place any more. -/
def isStale (layout : Layout) (place : KeyPlace) : Bool :=
  place.line != layout.cursor.line || keyLimit < layout.cursor.index - place.index

/-- (settle layout) counts the tokens that are settled. -/
def settle (layout : Layout) : Layout :=
  let earliest (count : Nat) (place : Option KeyPlace) : Nat :=
    match place with
    | some place => if layout.isStale place then count else min count place.tokens
    | none => count
  { layout with settled := layout.places.foldl earliest layout.tokens.size }

/-- (forgetStale layout) forgets the possible keys for which it is too late. -/
def forgetStale (layout : Layout) : Option Layout :=
  let isLost (place : Option KeyPlace) : Bool :=
    match place with
    | some place => layout.isStale place && place.required
    | none => false
  if layout.places.any isLost then
    none
  else
    some { layout with places := layout.places.map fun place => place.filter (!layout.isStale ·) }

/-- (forgetPlace layout) gives up the possible key at the current depth. -/
def forgetPlace (layout : Layout) : Option Layout :=
  match layout.place with
  | some place => if place.required then none else some (layout.setPlace none)
  | none => some layout

/-- (savePlace layout) remembers that a key may begin here. -/
def savePlace (layout : Layout) : Option Layout :=
  if layout.keyAllowed then
    (layout.forgetPlace).map fun layout =>
      layout.setPlace (some {
        tokens := layout.tokens.size
        required := !layout.inFlow && layout.indent == (layout.cursor.column : Int)
        line := layout.cursor.line
        column := layout.cursor.column
        index := layout.cursor.index })
  else
    some layout

/-- (closeBlocks fuel column layout) closes the blocks that are deeper than a column. -/
def closeBlocks : Nat → Int → Layout → Layout
  | 0, _, layout => layout
  | fuel + 1, column, layout =>
      if column < layout.indent then
        closeBlocks fuel column
          { layout with
            tokens := layout.tokens.push .blockEnd
            indent := layout.outer.headD (-1)
            outer := layout.outer.drop 1 }
      else
        layout

/-- (unwind column layout) closes deeper blocks outside brackets. -/
def unwind (column : Int) (layout : Layout) : Layout :=
  if layout.inFlow then layout else closeBlocks (layout.outer.length + 1) column layout

/-- (openBlock column layout) opens a block at a column deeper than the current one, and says
whether it did.
-/
def openBlock (column : Nat) (layout : Layout) : Bool × Layout :=
  if layout.indent < (column : Int) then
    (true, { layout with indent := column, outer := layout.indent :: layout.outer })
  else
    (false, layout)

/-- (advance n layout) passes `n` characters. -/
def advance (n : Nat) (layout : Layout) : Layout :=
  { layout with cursor := Cursor.skip n layout.cursor }

/-- (insertToken layout at token) puts a token before those from index `at` on. -/
def insertToken (layout : Layout) (position : Nat) (token : Token) : Layout :=
  { layout with
    tokens := layout.tokens.extract 0 position ++ #[token]
      ++ layout.tokens.extract position layout.tokens.size }

/-- (skipGaps fuel layout) passes spaces, comments and line ends up to the next token. A key may
begin on a new line.
-/
def skipGaps : Nat → Layout → Layout
  | 0, layout => layout
  | fuel + 1, layout =>
      let cursor := layout.cursor.skipWhile (· == ' ')
      let cursor := if cursor.peek == '#' then cursor.skipWhile fun c => !isEnd c else cursor
      let layout := { layout with cursor := cursor }
      if isBreak cursor.peek then
        skipGaps fuel
          { layout with
            cursor := cursor.lineBreak.2
            keyAllowed := layout.keyAllowed || !layout.inFlow }
      else
        layout

-----------------------------------------------------------------------------------------
-- One token

/-- (separator token layout) reads a document separator. -/
def separator (token : Token) (layout : Layout) : Option Layout :=
  ((layout.unwind (-1)).forgetPlace).map fun layout =>
    { (layout.advance 3).emit token with keyAllowed := false }

/-- (openFlow token layout) reads an opening bracket, which may begin a key. -/
def openFlow (token : Token) (layout : Layout) : Option Layout :=
  (layout.savePlace).map fun layout =>
    { (layout.advance 1).emit token with
      depth := layout.depth + 1, keyAllowed := true, places := none :: layout.places }

/-- (closeFlow token layout) reads a closing bracket. -/
def closeFlow (token : Token) (layout : Layout) : Option Layout :=
  (layout.forgetPlace).map fun layout =>
    { (layout.advance 1).emit token with
      depth := layout.depth - 1
      keyAllowed := false
      places := if layout.inFlow then layout.places.drop 1 else layout.places }

/-- (comma layout) reads a comma between brackets. -/
def comma (layout : Layout) : Option Layout :=
  (layout.forgetPlace).map fun layout =>
    { (layout.advance 1).emit .comma with keyAllowed := true }

/-- (blockIndicator opening token layout) reads a dash or a question mark, which opens a block
where the line is deeper than before.
-/
def blockIndicator (opening token : Token) (layout : Layout) : Option Layout :=
  if layout.inFlow then
    (layout.forgetPlace).map fun layout =>
      { (layout.advance 1).emit token with keyAllowed := token == .entry }
  else if layout.keyAllowed then
    let (opened, layout) := layout.openBlock layout.cursor.column
    let layout := if opened then layout.emit opening else layout
    (layout.forgetPlace).map fun layout =>
      { (layout.advance 1).emit token with keyAllowed := true }
  else
    none

/-- (colon layout) reads a colon: it ends the possible key of its line, or stands alone. -/
def colon (layout : Layout) : Option Layout :=
  match layout.place with
  | some place =>
      let layout := (layout.setPlace none).insertToken place.tokens .key
      let layout :=
        if layout.inFlow then
          layout
        else
          let (opened, layout) := layout.openBlock place.column
          if opened then layout.insertToken place.tokens .mappingStart else layout
      some { (layout.advance 1).emit .value with keyAllowed := false }
  | none =>
      if layout.inFlow then
        some { (layout.advance 1).emit .value with keyAllowed := false }
      else if layout.keyAllowed then
        let (opened, layout) := layout.openBlock layout.cursor.column
        let layout := if opened then layout.emit .mappingStart else layout
        some { (layout.advance 1).emit .value with keyAllowed := true }
      else
        none

/-- (block layout) reads a block scalar. -/
def block (layout : Layout) : Option Layout := do
  let layout ← layout.forgetPlace
  let (content, cursor) ← blockScalar layout.indent layout.cursor
  return { layout.emit (.scalar false (.ofChars content)) with
    cursor := cursor, keyAllowed := true }

/-- (upTo layout fault) are the tokens before a fault. Tokens that are not settled are given up. -/
def upTo (layout : Layout) (fault : Fault) : Array Token :=
  (layout.tokens.extract 0 layout.settled).push (.broken fault)

/-- (abandon layout fault) gives up a text that cannot be read on. -/
def abandon (layout : Layout) (fault : Fault) : Layout :=
  { ofText [] with tokens := layout.upTo fault }

/-- (quoted layout) reads a scalar in quotes. -/
def quoted (layout : Layout) : Option Layout := do
  let layout ← layout.savePlace
  match quotedScalar layout.cursor with
  | .ok (content, cursor) =>
      return { layout.emit (.scalar false content) with cursor := cursor, keyAllowed := false }
  | .error fault => return layout.abandon fault

/-- (plain layout) reads a plain scalar. -/
def plain (layout : Layout) : Option Layout := do
  let layout ← layout.savePlace
  let (content, ended, cursor) :=
    plainScalar (layout.cursor.rest.length + 1) layout.inFlow (layout.indent + 1) layout.cursor
  return { layout.emit (.scalar true (.ofChars content)) with
    cursor := cursor, keyAllowed := ended }

/-- (named token layout) reads the name of a node. -/
def named (token : String → Token) (layout : Layout) : Option Layout := do
  let layout ← layout.savePlace
  let (name, cursor) ← nodeName layout.cursor.advance
  return { layout.emit (token name) with cursor := cursor, keyAllowed := false }

/-- (tagged layout) reads a tag. -/
def tagged (layout : Layout) : Option Layout := do
  let layout ← layout.savePlace
  let (token, cursor) ← tagToken layout.cursor
  return { layout.emit token with cursor := cursor, keyAllowed := false }

/-- (directed layout) reads a directive. -/
def directed (layout : Layout) : Option Layout := do
  let layout ← (layout.unwind (-1)).forgetPlace
  match directive layout.cursor with
  | .ok (token, cursor) =>
      return { layout.emit token with cursor := cursor, keyAllowed := false }
  | .error fault => return layout.abandon fault

/-- (beginsPlain layout) holds where a plain scalar may begin. -/
def beginsPlain (layout : Layout) : Bool :=
  let c := layout.cursor.peek
  let next := layout.cursor.peekAt 1
  !(isGap c || "-?:,[]\x7b\x7d#&*!|>'\"%@\x60".toList.contains c)
    || (!isGap next && (c == '-' || (!layout.inFlow && (c == '?' || c == ':'))))

/-- (next layout) reads one token from its first character on. -/
def next (layout : Layout) : Option Layout :=
  let c := layout.cursor.peek
  let gapFollows := isGap (layout.cursor.peekAt 1)
  let atMargin := layout.cursor.column == 0 && layout.cursor.atSeparator
  if c == '%' && layout.cursor.column == 0 then
    layout.directed
  else if c == '-' && atMargin then
    layout.separator .documentStart
  else if c == '.' && atMargin then
    layout.separator .documentEnd
  else if c == '[' then
    layout.openFlow .openBracket
  else if c == '{' then
    layout.openFlow .openBrace
  else if c == ']' then
    layout.closeFlow .closeBracket
  else if c == '}' then
    layout.closeFlow .closeBrace
  else if c == ',' then
    layout.comma
  else if c == '-' && gapFollows then
    layout.blockIndicator .sequenceStart .entry
  else if c == '?' && (layout.inFlow || gapFollows) then
    layout.blockIndicator .mappingStart .key
  else if c == ':' && (layout.inFlow || gapFollows) then
    layout.colon
  else if c == '*' then
    layout.named .alias
  else if c == '&' then
    layout.named .anchor
  else if c == '!' then
    layout.tagged
  else if (c == '|' || c == '>') && !layout.inFlow then
    layout.block
  else if c == '"' || c == Char.ofNat 0x27 then
    layout.quoted
  else if layout.beginsPlain then
    layout.plain
  else
    none

/-- (pass layout) passes what stands before the next token and closes blocks that end there. -/
def pass (layout : Layout) : Option Layout := do
  let layout ← (skipGaps (layout.cursor.rest.length + 1) layout).forgetStale
  return layout.unwind layout.cursor.column

/-- (run isWhole fuel layout) reads the tokens up to the end of the text. When the text is whole all
blocks are closed there, and otherwise it cannot be read on. Every token has a character, so the
length of the text is fuel enough.
-/
def run (isWhole : Bool) : Nat → Layout → Array Token
  | 0, layout => layout.upTo .malformedYaml
  | fuel + 1, layout =>
      let layout := layout.settle
      match layout.pass with
      | none => layout.upTo .malformedYaml
      | some passed =>
          if passed.cursor.rest.isEmpty then
            match (passed.unwind (-1)).forgetPlace with
            | some closed => if isWhole then closed.tokens else layout.upTo .malformedYaml
            | none => layout.upTo .malformedYaml
          else
            match passed.next with
            | some more => run isWhole fuel more
            | none => layout.upTo .malformedYaml

end Layout

/-- (portion) is how many characters of a text are read at a time. The first two portions are read
together.
-/
def portion : Nat := 4096

/-- (readable fuel cs) are the portions of a text before the first one with a character that is not
allowed.
-/
def readable : Nat → List Char → List Char
  | 0, _ => []
  | fuel + 1, cs =>
      let first := cs.take portion
      if first.isEmpty then []
      else if first.all isAllowed then first ++ readable fuel (cs.drop portion)
      else []

/-- (readableStart cs) is as much of a text as is read before a character that is not allowed. -/
def readableStart (cs : List Char) : List Char :=
  let found := readable (cs.length + 1) cs
  if found.length < min (2 * portion) cs.length then [] else found

/-- (tokens s) are the tokens of a text up to where it cannot be read on. A character that is not
allowed is met only by those who read as far as to it.
-/
def tokens (s : String) : List Token :=
  let start := readableStart s.toList
  let cs := if start.head? == some '\ufeff' then start.drop 1 else start
  (Layout.run (start.length == s.length) (cs.length + 2) (.ofText cs)).toList

end ArkLifecycle.Yaml
