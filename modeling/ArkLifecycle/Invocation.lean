import ArkLifecycle.Text.Blank
import ArkLifecycle.Text.Search
import ArkLifecycle.Text.Word

/-! Invocations in rendered statements.

The strict reading is `invoke receiver.<file: Class.method(parameters)>` and names
`receiver.method`. Where no part of a text reads so, the loose reading takes the first
parenthesis that follows a word and is closed before another one opens, and names that word.
-/

namespace ArkLifecycle.Invocation

/-- (markers) are the words that mark an invocation. -/
def markers : List Text := ["invoke", "call"]

/-- (isInvocation text) holds when the text has one of the markers. -/
def isInvocation (text : Text) : Bool :=
  markers.any (Text.contains text)

/-- (isReceiver c) holds of the characters of receivers and class names. -/
def isReceiver (c : Letter) : Bool :=
  Text.isWord c || c == '%' || c == '$'

-----------------------------------------------------------------------------------------
-- The strict reading

/-- (memberCall? cs) reads `Class.method(parameters)>`, blanks before it allowed, and gives the
method.
-/
def memberCall? (cs : List Letter) : Option (List Letter) :=
  match (Text.trimStart cs).dropWhile isReceiver with
  | .char '.' :: rest =>
      let method := rest.takeWhile Text.isWord
      match method, rest.dropWhile Text.isWord with
      | [], _ => none
      | _, .char '(' :: rest =>
          match Text.beforeFirst ')' rest with
          | some (_, .char '>' :: _) => some method
          | _ => none
      | _, _ => none
  | _ => none

/-- (lastMember? cs) tries the colons before the first closing bracket, the last one first, and
reads a member call after it.
-/
def lastMember? : List Letter → Option (List Letter)
  | [] => none
  | c :: rest =>
      if c == '>' then
        none
      else
        match lastMember? rest with
        | some method => some method
        | none => if c == ':' then memberCall? rest else none

/-- (strictAt? cs) reads the receiver and the bracketed signature after the word `invoke`. -/
def strictAt? (cs : List Letter) : Option (List Letter) :=
  match cs with
  | c :: _ =>
      if Text.isBlank c then
        let rest := Text.trimStart cs
        let receiver := rest.takeWhile isReceiver
        match receiver, rest.dropWhile isReceiver with
        | [], _ => none
        | _, .char '.' :: .char '<' :: rest =>
            (lastMember? rest).map fun method => receiver ++ .char '.' :: method
        | _, _ => none
      else
        none
  | [] => none

/-- (strict? cs) is the target named by the first `invoke` that reads strictly. -/
def strict? : List Letter → Option (List Letter)
  | [] => none
  | c :: rest =>
      match c :: rest with
      | .char 'i' :: .char 'n' :: .char 'v' :: .char 'o' :: .char 'k' :: .char 'e' :: after =>
          match strictAt? after with
          | some target => some target
          | none => strict? rest
      | _ => strict? rest

-----------------------------------------------------------------------------------------
-- The loose reading

/-- (isParenthesis c) holds of the two parentheses. -/
def isParenthesis (c : Letter) : Bool :=
  c == '(' || c == ')'

/-- (closesFirst cs) holds when the first parenthesis in `cs` is a closing one. -/
def closesFirst (cs : List Letter) : Bool :=
  cs.find? isParenthesis == some (.char ')')

/-- (looseFrom word cs) looks for the first parenthesis that follows a word and is closed before
another one opens; `word` holds the word characters just before `cs`, the last one first.
-/
def looseFrom (word : List Letter) : List Letter → Option (List Letter)
  | [] => none
  | c :: rest =>
      if c == '(' then
        match word with
        | [] => looseFrom [] rest
        | _ => if closesFirst rest then some word.reverse else looseFrom [] rest
      else if Text.isWord c then
        looseFrom (c :: word) rest
      else
        looseFrom [] rest

/-- (called? text) is the name that the loose reading gives. -/
def called? (text : Text) : Option Text :=
  (looseFrom [] text.toList).map Text.ofList

/-- (target? text) is the invocation target of a text: the strict reading, else the loose one.
-/
def target? (text : Text) : Option Text :=
  match strict? text.toList with
  | some target => some (Text.ofList target)
  | none => called? text

/-- (labelLimit) is the length to which a text is cut where it stands for a target. -/
def labelLimit : Nat := 60

/-- (label text) is the target of a text, or its beginning when it names none. -/
def label (text : Text) : Text :=
  (target? text).getD (Text.takeText labelLimit text)

end ArkLifecycle.Invocation
