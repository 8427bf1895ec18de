import ArkLifecycle.Json.Parser
import ArkLifecycle.Yaml.Cursor

/-! Tokens of a YAML text, and how scalars are read.

A scalar is plain, in single or double quotes, or a block that keeps or folds its lines. Line
ends inside a scalar fold: a single one becomes a space, and of several the first is dropped. Only
an escape in double quotes can write half of a pair of code units.
-/

namespace ArkLifecycle.Yaml

/-- A piece of a YAML text. Where blocks begin and end follows from indentation. -/
inductive Token where
  | documentStart
  | documentEnd
  | sequenceStart
  | mappingStart
  | blockEnd
  | entry
  | key
  | value
  | openBracket
  | closeBracket
  | openBrace
  | closeBrace
  | comma
  /-- A name for the node that follows. -/
  | anchor (name : String)
  /-- Another place for the node with that name. -/
  | alias (name : String)
  /-- What kind of value the node that follows is; the handle stands for the beginning. -/
  | tag (handle : Option String) (suffix : String)
  /-- The version of YAML that a document is written in. -/
  | versionDirective (major : Nat)
  /-- What a handle of tags stands for. -/
  | tagDirective (handle stands : String)
  /-- A directive without a meaning. -/
  | otherDirective
  | scalar (plain : Bool) (content : Text)
  /-- Here the text cannot be read on. -/
  | broken (fault : Fault)
deriving DecidableEq, Repr, Inhabited

/-- (codeFault code) is the fault of an escape for a code that is no character. -/
def codeFault (code : Nat) : Fault :=
  if code < 0x80000000 then .codeOutOfRange else .codeTooLarge

/-- (folded broken more) is what a line end and further line ends fold to. -/
def folded (broken more : List Char) : List Char :=
  (if broken != ['\n'] then broken else if more.isEmpty then [' '] else []) ++ more

-----------------------------------------------------------------------------------------
-- Scalars in quotes

/-- (quotedBreaks fuel cursor) reads further line ends inside a quoted scalar, with the blanks
around them. A document separator must not stand there.
-/
def quotedBreaks : Nat → Cursor → Except Fault (List Char × Cursor)
  | 0, cursor => .ok ([], cursor)
  | fuel + 1, cursor =>
      if cursor.atSeparator then
        .error .malformedYaml
      else
        let cursor := cursor.skipWhile fun c => c == ' ' || c == '\t'
        if isBreak cursor.peek then
          let (broken, cursor) := cursor.lineBreak
          (quotedBreaks fuel cursor).map fun (more, cursor) => (broken ++ more, cursor)
        else
          .ok ([], cursor)

/-- (quotedSpaces cursor) reads blanks and line ends inside a quoted scalar. -/
def quotedSpaces (cursor : Cursor) : Except Fault (List Letter × Cursor) :=
  let (spaces, cursor) := cursor.takeWhile fun c => c == ' ' || c == '\t'
  if cursor.rest.isEmpty then
    .error .malformedYaml
  else if isBreak cursor.peek then
    let (broken, cursor) := cursor.lineBreak
    (quotedBreaks (cursor.rest.length + 1) cursor).map fun (more, cursor) =>
      ((folded broken more).map Letter.char, cursor)
  else
    .ok (spaces.map Letter.char, cursor)

/-- (letterEscape? c) is the character that a letter stands for after a backslash. -/
def letterEscape? (c : Char) : Option Char :=
  match c with
  | '0' => some '\x00'
  | 'a' => some '\x07'
  | 'b' => some '\x08'
  | 't' => some '\t'
  | '\t' => some '\t'
  | 'n' => some '\n'
  | 'v' => some '\x0b'
  | 'f' => some '\x0c'
  | 'r' => some '\r'
  | 'e' => some '\x1b'
  | ' ' => some ' '
  | '"' => some '"'
  | '\\' => some '\\'
  | '/' => some '/'
  | 'N' => some '\u0085'
  | '_' => some '\u00a0'
  | 'L' => some '\u2028'
  | 'P' => some '\u2029'
  | _ => none

/-- (escapeWidth? c) is the number of hexadecimal digits that follow a letter. -/
def escapeWidth? (c : Char) : Option Nat :=
  match c with
  | 'x' => some 2
  | 'u' => some 4
  | 'U' => some 8
  | _ => none

/-- (escaped cursor) reads what follows a backslash in double quotes. -/
def escaped (cursor : Cursor) : Except Fault (List Letter × Cursor) :=
  match letterEscape? cursor.peek, escapeWidth? cursor.peek with
  | some c, _ => .ok ([c], cursor.advance)
  | none, some width =>
      let cursor := cursor.advance
      let digits := (cursor.rest.take width).filterMap Json.hexDigit?
      if digits.length == width then
        let code := digits.foldl (fun value digit => 16 * value + digit) 0
        if code < 0x110000 then
          .ok ([Letter.ofCode code], Cursor.skip width cursor)
        else
          .error (codeFault code)
      else
        .error .malformedYaml
  | none, none =>
      if isBreak cursor.peek then
        let (_, cursor) := cursor.lineBreak
        (quotedBreaks (cursor.rest.length + 1) cursor).map fun (more, cursor) =>
          (more.map Letter.char, cursor)
      else
        .error .malformedYaml

/-- (quotedRun fuel double cursor) reads the characters of a quoted scalar up to a blank, a line
end or the closing quote.
-/
def quotedRun : Nat → Bool → Cursor → Except Fault (List Letter × Cursor)
  | 0, _, cursor => .ok ([], cursor)
  | fuel + 1, double, cursor =>
      let single := Char.ofNat 0x27
      let (run, cursor) :=
        cursor.takeWhile fun c => !(c == single || c == '"' || c == '\\' || isGap c)
      let c := cursor.peek
      let run := run.map Letter.char
      let more (part : List Letter) (cursor : Cursor) : Except Fault (List Letter × Cursor) :=
        (quotedRun fuel double cursor).map fun (rest, cursor) => (run ++ part ++ rest, cursor)
      if !double && c == single && cursor.peekAt 1 == single then
        more [single] (Cursor.skip 2 cursor)
      else if (double && c == single) || (!double && (c == '"' || c == '\\')) then
        more [c] cursor.advance
      else if double && c == '\\' then
        match escaped cursor.advance with
        | .error fault => .error fault
        | .ok (part, cursor) => more part cursor
      else
        .ok (run, cursor)

/-- (quotedRest fuel double cursor) reads a quoted scalar from a blank, a line end or the closing
quote on.
-/
def quotedRest : Nat → Bool → Cursor → Except Fault (List Letter × Cursor)
  | 0, _, _ => .error .malformedYaml
  | fuel + 1, double, cursor =>
      let quote := if double then '"' else Char.ofNat 0x27
      if cursor.peek == quote && !cursor.rest.isEmpty then
        .ok ([], cursor.advance)
      else
        match quotedSpaces cursor with
        | .error fault => .error fault
        | .ok (spaces, cursor) =>
            match quotedRun (cursor.rest.length + 1) double cursor with
            | .error fault => .error fault
            | .ok (run, cursor) =>
                (quotedRest fuel double cursor).map fun (rest, cursor) =>
                  (spaces ++ run ++ rest, cursor)

/-- (quotedScalar cursor) reads a scalar in quotes from its opening quote on. -/
def quotedScalar (cursor : Cursor) : Except Fault (Text × Cursor) :=
  let double := cursor.peek == '"'
  match quotedRun (cursor.rest.length + 1) double cursor.advance with
  | .error fault => .error fault
  | .ok (run, cursor) =>
      (quotedRest (cursor.rest.length + 1) double cursor).map fun (rest, cursor) =>
        (⟨run ++ rest⟩, cursor)

-----------------------------------------------------------------------------------------
-- Block scalars

/-- What becomes of the line ends that close a block scalar. -/
inductive Chomping where
  | strip
  | clip
  | keep
deriving DecidableEq, Repr, Inhabited

/-- (chomping? c) is the rule that a sign asks for. -/
def chomping? (c : Char) : Option Chomping :=
  match c with
  | '+' => some .keep
  | '-' => some .strip
  | _ => none

/-- (blockHeader cursor) reads the signs after the bar or the angle, in either order: the rule for
closing line ends and the depth of the block.
-/
def blockHeader (cursor : Cursor) : Option (Chomping × Option Nat × Cursor) :=
  let depth? (c : Char) : Option Nat := if c.isDigit then some (c.toNat - 0x30) else none
  let read :=
    match chomping? cursor.peek, depth? cursor.peek with
    | some chomping, _ =>
        let cursor := cursor.advance
        match depth? cursor.peek with
        | some depth => (chomping, some depth, cursor.advance)
        | none => (chomping, none, cursor)
    | none, some depth =>
        let cursor := cursor.advance
        match chomping? cursor.peek with
        | some chomping => (chomping, some depth, cursor.advance)
        | none => (.clip, some depth, cursor)
    | none, none => (.clip, none, cursor)
  let (chomping, depth, cursor) := read
  if depth == some 0 || !(cursor.peek == ' ' || isEnd cursor.peek) then
    none
  else
    let cursor := cursor.skipWhile (· == ' ')
    let cursor :=
      if cursor.peek == '#' then cursor.skipWhile fun c => !isEnd c else cursor
    if isEnd cursor.peek then some (chomping, depth, cursor.lineBreak.2) else none

/-- (blockIndentation fuel deepest cursor) passes blank lines before a block and finds the depth
of its first line.
-/
def blockIndentation : Nat → Nat → Cursor → List Char × Nat × Cursor
  | 0, deepest, cursor => ([], deepest, cursor)
  | fuel + 1, deepest, cursor =>
      if cursor.peek == ' ' then
        let cursor := cursor.advance
        blockIndentation fuel (max deepest cursor.column) cursor
      else if isBreak cursor.peek then
        let (broken, cursor) := cursor.lineBreak
        let (more, deepest, cursor) := blockIndentation fuel deepest cursor
        (broken ++ more, deepest, cursor)
      else
        ([], deepest, cursor)

/-- (blockSpaces fuel depth cursor) passes the spaces before column `depth`. -/
def blockSpaces : Nat → Nat → Cursor → Cursor
  | 0, _, cursor => cursor
  | fuel + 1, depth, cursor =>
      if cursor.column < depth && cursor.peek == ' ' then
        blockSpaces fuel depth cursor.advance
      else
        cursor

/-- (blockBreaks fuel depth cursor) reads line ends between the lines of a block, and the spaces
of its depth.
-/
def blockBreaks : Nat → Nat → Cursor → List Char × Cursor
  | 0, _, cursor => ([], cursor)
  | fuel + 1, depth, cursor =>
      let cursor := blockSpaces depth depth cursor
      if isBreak cursor.peek then
        let (broken, cursor) := cursor.lineBreak
        let (more, cursor) := blockBreaks fuel depth cursor
        (broken ++ more, cursor)
      else
        ([], cursor)

/-- (blockLines fuel fold chomping depth breaks cursor) reads the lines of a block; `breaks` are
the line ends before the next one.
-/
def blockLines : Nat → Bool → Chomping → Nat → List Char → Cursor → List Char × Cursor
  | 0, _, _, _, _, cursor => ([], cursor)
  | fuel + 1, fold, chomping, depth, breaks, cursor =>
      let indented := !(cursor.peek == ' ' || cursor.peek == '\t')
      let (line, cursor) := cursor.takeWhile fun c => !isEnd c
      let (broken, cursor) := cursor.lineBreak
      let (next, cursor) := blockBreaks (cursor.rest.length + 1) depth cursor
      if cursor.column == depth && !cursor.rest.isEmpty then
        let joint :=
          if fold && broken == ['\n'] && indented && !(cursor.peek == ' ' || cursor.peek == '\t')
          then if next.isEmpty then [' '] else []
          else broken
        let (rest, cursor) := blockLines fuel fold chomping depth next cursor
        (breaks ++ line ++ joint ++ rest, cursor)
      else
        let tail :=
          match chomping with
          | .strip => []
          | .clip => broken
          | .keep => broken ++ next
        (breaks ++ line ++ tail, cursor)

/-- (blockScalar indent cursor) reads a block scalar from its bar or angle on, inside a block at
the given indentation.
-/
def blockScalar (indent : Int) (cursor : Cursor) : Option (List Char × Cursor) :=
  let fold := cursor.peek == '>'
  match blockHeader cursor.advance with
  | none => none
  | some (chomping, depth?, cursor) =>
      let least := (max (indent + 1) 1).toNat
      let (breaks, depth, cursor) :=
        match depth? with
        | none =>
            let (breaks, deepest, cursor) := blockIndentation (cursor.rest.length + 1) 0 cursor
            (breaks, max least deepest, cursor)
        | some given =>
            let depth := least + given - 1
            let (breaks, cursor) := blockBreaks (cursor.rest.length + 1) depth cursor
            (breaks, depth, cursor)
      if cursor.column == depth && !cursor.rest.isEmpty then
        some (blockLines (cursor.rest.length + 1) fold chomping depth breaks cursor)
      else
        some (if chomping == .keep then breaks else [], cursor)

-----------------------------------------------------------------------------------------
-- Plain scalars

/-- (plainRun inFlow cs) is the longest run that belongs to a plain scalar: up to a blank, a colon
before a gap, or, inside brackets, a sign of the flow notation.
-/
def plainRun (inFlow : Bool) : List Char → List Char
  | [] => []
  | c :: rest =>
      let next := rest.headD '\x00'
      if isGap c
          || (c == ':' && (isGap next || (inFlow && ",[]\x7b\x7d".toList.contains next)))
          || (inFlow && ",?[]\x7b\x7d".toList.contains c) then
        []
      else
        c :: plainRun inFlow rest

/-- (plainBreaks fuel cursor) reads further line ends after the first one in a plain scalar. It
stops with nothing at a document separator.
-/
def plainBreaks : Nat → Cursor → Option (List Char) × Cursor
  | 0, cursor => (some [], cursor)
  | fuel + 1, cursor =>
      if cursor.atSeparator && cursor.column == 0 then
        (none, cursor)
      else if cursor.peek == ' ' then
        plainBreaks fuel cursor.advance
      else if isBreak cursor.peek then
        let (broken, cursor) := cursor.lineBreak
        match plainBreaks fuel cursor with
        | (some more, cursor) => (some (broken ++ more), cursor)
        | (none, cursor) => (none, cursor)
      else
        (some [], cursor)

/-- (plainSpaces cursor) reads what stands between two runs of a plain scalar, and whether a line
ended there.
-/
def plainSpaces (cursor : Cursor) : List Char × Bool × Cursor :=
  let (spaces, cursor) := cursor.takeWhile (· == ' ')
  if isBreak cursor.peek then
    let (broken, cursor) := cursor.lineBreak
    match plainBreaks (cursor.rest.length + 1) cursor with
    | (none, cursor) => ([], true, cursor)
    | (some more, cursor) => (folded broken more, true, cursor)
  else
    (spaces, false, cursor)

/-- (plainScalar fuel inFlow least cursor) reads a plain scalar. In block notation its further
lines stand at column `least` or deeper. The truth value says whether a line ended last.
-/
def plainScalar : Nat → Bool → Int → Cursor → List Char × Bool × Cursor
  | 0, _, _, cursor => ([], false, cursor)
  | fuel + 1, inFlow, least, cursor =>
      let run := if cursor.peek == '#' then [] else plainRun inFlow cursor.rest
      let (spaces, ended, cursor) := plainSpaces (Cursor.skip run.length cursor)
      if spaces.isEmpty || cursor.peek == '#' || (!inFlow && (cursor.column : Int) < least)
          || (plainRun inFlow cursor.rest).isEmpty then
        (run, ended, cursor)
      else
        let (rest, ended, cursor) := plainScalar fuel inFlow least cursor
        (run ++ spaces ++ rest, ended, cursor)

end ArkLifecycle.Yaml
