import ArkLifecycle.Yaml.Layout
import ArkLifecycle.Yaml.Tag

/-! From tokens to nodes.

Nodes refer to each other by their numbers, because a node may stand at several places, even inside
of itself. A text holds at most one document. Whatever the grammar does not expect is a fault, and
so are a name that is given twice, a name that is not given and a handle that stands for nothing.
Collections are nested only so deep.
-/

namespace ArkLifecycle.Yaml

/-- What a node holds. Other nodes are given by their numbers. -/
inductive Content where
  | scalar (content : Text)
  | sequence (items : List Nat)
  | mapping (pairs : List (Nat × Nat))
deriving DecidableEq, Repr, Inhabited

/-- A node: what kind of value it is and what it holds. -/
structure Node where
  tag : Tag
  content : Content
deriving DecidableEq, Repr, Inhabited

/-- How far a document has been read: the tokens that are left, the nodes that were found, the names
that some of them have, what handles of tags stand for, and how many collections may begin inside of
each other here.
-/
structure Reading where
  tokens : List Token
  nodes : Array Node
  names : List (String × Nat)
  handles : List (String × String)
  room : Nat
deriving Inhabited

/-- A part of the grammar. -/
abbrev Grammar := StateT Reading (Except Fault)

namespace Grammar

/-- (malformed) is where the grammar cannot go on. -/
def malformed {α : Type} : Grammar α :=
  throw .malformedYaml

/-- (peek) is the next token. Where the text cannot be read on there is none but a fault. -/
def peek : Grammar (Option Token) := do
  match (← get).tokens.head? with
  | some (.broken fault) => throw fault
  | token => return token

/-- (skip) passes the next token. -/
def skip : Grammar Unit :=
  modify fun reading => { reading with tokens := reading.tokens.drop 1 }

/-- (add name node) adds a node; a name is given once. -/
def add (name : Option String) (node : Node) : Grammar Nat := do
  let reading ← get
  let index := reading.nodes.size
  let names ←
    match name with
    | none => pure reading.names
    | some name =>
        if (reading.names.lookup name).isSome then malformed
        else pure ((name, index) :: reading.names)
  set { reading with nodes := reading.nodes.push node, names := names }
  return index

/-- (absent) adds a node where there is none: an empty plain scalar. -/
def absent : Grammar Nat :=
  add none ⟨.null, .scalar ""⟩

/-- (fill index content) says what a node holds that was added before its parts. -/
def fill (index : Nat) (content : Content) : Grammar Nat := do
  modify fun reading =>
    { reading with
      nodes := reading.nodes.modify index fun node => { node with content := content } }
  return index

/-- (inside part) reads a part of the grammar inside of a collection. -/
def inside {α : Type} (part : Grammar α) : Grammar α := do
  match (← get).room with
  | 0 => throw .tooDeep
  | room + 1 =>
      modify fun reading => { reading with room := room }
      let found ← part
      modify fun reading => { reading with room := room + 1 }
      return found

-----------------------------------------------------------------------------------------
-- Properties

/-- The properties of a node: its name and its full tag. -/
structure Properties where
  name : Option String
  tag : Option String
deriving DecidableEq, Repr, Inhabited

/-- (givenName) reads the name of a node, if there is one. -/
def givenName : Grammar (Option String) := do
  match ← peek with
  | some (.anchor name) =>
      skip
      return some name
  | _ => return none

/-- (givenTag) reads the tag of a node as it is written, if there is one. -/
def givenTag : Grammar (Option (Option String × String)) := do
  match ← peek with
  | some (.tag handle suffix) =>
      skip
      return some (handle, suffix)
  | _ => return none

/-- (fullTag handle suffix) is a tag in full. -/
def fullTag (handle : Option String) (suffix : String) : Grammar String := do
  match handle with
  | none => return suffix
  | some handle =>
      match (← get).handles.lookup handle with
      | some stem => return stem ++ suffix
      | none => malformed

/-- (properties) reads the properties of a node, in either order. -/
def properties : Grammar Properties := do
  let before ← givenName
  let tag ← givenTag
  let after ← if before.isNone && tag.isSome then givenName else pure none
  let tag ← tag.mapM fun (handle, suffix) => fullTag handle suffix
  return ⟨before.orElse fun _ => after, tag⟩

namespace Properties

/-- (asksToResolve properties) holds when the tag leaves the kind of value to the spelling. -/
def asksToResolve (properties : Properties) : Bool :=
  properties.tag == some "!"

/-- (scalarTag properties plain content) is what kind of value a scalar is. -/
def scalarTag (properties : Properties) (plain : Bool) (content : Text) : Tag :=
  match properties.tag with
  | some name =>
      if properties.asksToResolve then .ofPlain content else .ofName name
  | none => if plain then .ofPlain content else .text

/-- (collectionTag properties default) is what kind of value a collection is. -/
def collectionTag (properties : Properties) (default : Tag) : Tag :=
  match properties.tag with
  | some name => if properties.asksToResolve then default else .ofName name
  | none => default

/-- (isEmpty properties) holds when a node has no properties. -/
def isEmpty (properties : Properties) : Bool :=
  properties.name.isNone && properties.tag.isNone

end Properties

-----------------------------------------------------------------------------------------
-- Nodes

/-- (endsField token) holds where the value of a block field is missing. -/
def endsField (token : Option Token) : Bool :=
  token == some .key || token == some .value || token == some .blockEnd

/-- (endsEntry token) holds where the node after a dash is missing. -/
def endsEntry (token : Option Token) : Bool :=
  token == some .entry || token == some .blockEnd

/-- (endsFlow closing token) holds where a node between brackets is missing. -/
def endsFlow (closing : Token) (token : Option Token) : Bool :=
  token == some .comma || token == some closing

mutual

/-- (node fuel inBlock flat) reads a node. Blocks are read when `inBlock` holds, and a sequence that
is not deeper than its key when `flat` holds. Where a node has properties it may be missing.
-/
def node : Nat → Bool → Bool → Grammar Nat
  | 0, _, _ => malformed
  | fuel + 1, inBlock, flat => do
      match ← peek with
      | some (.alias name) =>
          skip
          match (← get).names.lookup name with
          | some index => return index
          | none => malformed
      | _ =>
          let properties ← properties
          let sequence : Grammar Nat :=
            add properties.name ⟨properties.collectionTag .list, .sequence []⟩
          let mapping : Grammar Nat :=
            add properties.name ⟨properties.collectionTag .mapping, .mapping []⟩
          match ← peek, inBlock, flat with
          | some (.scalar plain content), _, _ =>
              skip
              add properties.name ⟨properties.scalarTag plain content, .scalar content⟩
          | some .openBracket, _, _ =>
              skip
              fill (← sequence) (.sequence (← inside (flowItems fuel true)))
          | some .openBrace, _, _ =>
              skip
              fill (← mapping) (.mapping (← inside (flowFields fuel true)))
          | some .entry, _, true => fill (← sequence) (.sequence (← inside (flatItems fuel)))
          | some .sequenceStart, true, _ =>
              skip
              fill (← sequence) (.sequence (← inside (blockItems fuel)))
          | some .mappingStart, true, _ =>
              skip
              fill (← mapping) (.mapping (← inside (blockFields fuel)))
          | _, _, _ =>
              if properties.isEmpty then
                malformed
              else
                add properties.name ⟨properties.scalarTag true "", .scalar ""⟩

/-- (blockItems fuel) reads the entries of a sequence up to the end of its block. -/
def blockItems : Nat → Grammar (List Nat)
  | 0 => malformed
  | fuel + 1 => do
      match ← peek with
      | some .blockEnd =>
          skip
          return []
      | some .entry =>
          skip
          let item ← if endsEntry (← peek) then absent else node fuel true false
          return item :: (← blockItems fuel)
      | _ => malformed

/-- (flatItems fuel) reads entries that stand at the column of their key. -/
def flatItems : Nat → Grammar (List Nat)
  | 0 => malformed
  | fuel + 1 => do
      match ← peek with
      | some .entry =>
          skip
          let next ← peek
          let item ←
            if endsEntry next || endsField next then absent else node fuel true false
          return item :: (← flatItems fuel)
      | _ => return []

/-- (blockFields fuel) reads the fields of a mapping up to the end of its block. -/
def blockFields : Nat → Grammar (List (Nat × Nat))
  | 0 => malformed
  | fuel + 1 => do
      match ← peek with
      | some .blockEnd =>
          skip
          return []
      | some .key =>
          skip
          let name ← if endsField (← peek) then absent else node fuel true true
          match ← peek with
          | some .value =>
              skip
              let value ← if endsField (← peek) then absent else node fuel true true
              return (name, value) :: (← blockFields fuel)
          | _ =>
              let value ← absent
              return (name, value) :: (← blockFields fuel)
      | _ => malformed

/-- (flowField fuel closing) reads a key and its value between brackets. -/
def flowField : Nat → Token → Grammar (Nat × Nat)
  | 0, _ => malformed
  | fuel + 1, closing => do
      let next ← peek
      let name ←
        if next == some .value || endsFlow closing next then absent else node fuel false false
      match ← peek with
      | some .value =>
          skip
          let value ← if endsFlow closing (← peek) then absent else node fuel false false
          return (name, value)
      | _ => return (name, ← absent)

/-- (flowItems fuel first) reads the items between square brackets; an item may be a single field.
-/
def flowItems : Nat → Bool → Grammar (List Nat)
  | 0, _ => malformed
  | fuel + 1, first => do
      if (← peek) == some .closeBracket then
        skip
        return []
      if !first then
        if (← peek) != some .comma then
          malformed
        skip
      match ← peek with
      | some .closeBracket =>
          skip
          return []
      | some .key =>
          skip
          let item ← add none ⟨.mapping, .mapping []⟩
          let item ← fill item (.mapping [← inside (flowField fuel .closeBracket)])
          return item :: (← flowItems fuel false)
      | _ =>
          let item ← node fuel false false
          return item :: (← flowItems fuel false)

/-- (flowFields fuel first) reads the fields between braces; a key may stand alone. -/
def flowFields : Nat → Bool → Grammar (List (Nat × Nat))
  | 0, _ => malformed
  | fuel + 1, first => do
      if (← peek) == some .closeBrace then
        skip
        return []
      if !first then
        if (← peek) != some .comma then
          malformed
        skip
      match ← peek with
      | some .closeBrace =>
          skip
          return []
      | some .key =>
          skip
          let field ← flowField fuel .closeBrace
          return field :: (← flowFields fuel false)
      | _ =>
          let name ← node fuel false false
          let field := (name, ← absent)
          return field :: (← flowFields fuel false)

end

-----------------------------------------------------------------------------------------
-- Documents

/-- (standardHandles) are the handles that need no directive. -/
def standardHandles : List (String × String) :=
  [("!", "!"), ("!!", standardStem)]

/-- (directives fuel versioned) reads the directives before a document. A version is given once and
begins with one; a handle is given once.
-/
def directives : Nat → Bool → Grammar Unit
  | 0, _ => malformed
  | fuel + 1, versioned => do
      match ← peek with
      | some (.versionDirective major) =>
          skip
          if versioned || major != 1 then
            malformed
          directives fuel true
      | some (.tagDirective handle stem) =>
          skip
          if ((← get).handles.lookup handle).isSome then
            malformed
          modify fun reading => { reading with handles := (handle, stem) :: reading.handles }
          directives fuel versioned
      | some .otherDirective =>
          skip
          directives fuel versioned
      | _ =>
          modify fun reading => { reading with handles := reading.handles ++ standardHandles }

/-- (isDirective token) holds of directives. -/
def isDirective : Option Token → Bool
  | some (.versionDirective _) | some (.tagDirective _ _) | some .otherDirective => true
  | _ => false

/-- (endsDocument token) holds where a document has no content. -/
def endsDocument (token : Option Token) : Bool :=
  token.isNone || token == some .documentStart || token == some .documentEnd || isDirective token

/-- (root) reads the root of a document; without a separator it has no directives. -/
def root : Grammar Nat := do
  let fuel := 4 * (← get).tokens.length + 4
  let next ← peek
  if next == some .documentStart || isDirective next then
    directives fuel false
    if (← peek) != some .documentStart then
      malformed
    skip
    if endsDocument (← peek) then absent else node fuel true false
  else
    modify fun reading => { reading with handles := standardHandles }
    node fuel true false

/-- (close fuel) reads what may follow a document: separators that end it, and nothing else. -/
def close : Nat → Grammar Unit
  | 0 => malformed
  | fuel + 1 => do
      match ← peek with
      | none => return
      | some .documentEnd =>
          skip
          close fuel
      | _ =>
          modify fun reading => { reading with handles := [] }
          directives (fuel + 1) false
          malformed

/-- (document) reads the only document of a text; a text without tokens has none. -/
def document : Grammar (Option Nat) := do
  if (← peek).isNone then
    return none
  let index ← root
  close ((← get).tokens.length + 1)
  return some index

end Grammar

/-- (depthLimit) is how deep collections may be nested: two calls for each, below 24 that are open
already.
-/
def depthLimit : Nat := (stackDepth - 24) / 2

/-- (readNodes tokens) are the nodes of a document and the number of its root. -/
def readNodes (tokens : List Token) : Except Fault (Option Nat × Array Node) := do
  let (root, reading) ← Grammar.document.run ⟨tokens, #[], [], [], depthLimit⟩
  return (root, reading.nodes)

end ArkLifecycle.Yaml
