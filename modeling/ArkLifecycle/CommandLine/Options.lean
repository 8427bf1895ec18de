import ArkLifecycle.Analysis
import ArkLifecycle.CommandLine.Flag

/-! Reading the command line.

Every word is first looked at by itself: it is a flag, perhaps abbreviated and perhaps with a
value after an equals sign, or a value, or unknown. Then the words are gone through in order,
and a flag without a value of its own takes the next word if that is a value. After two dashes
no word means anything.
-/

namespace ArkLifecycle.CommandLine

/-- The options of a run of the program. -/
structure Options where
  model : Text
  catalog : Option Text
  settings : Text
  out : Option Text
  workers : Option Int
  includeTests : Bool
  scope : Option Scope
  verbose : Bool
deriving DecidableEq, Repr, Inhabited

/-- A word of the command line. -/
inductive Word where
  | value (text : Text)
  | flag (flag : Flag) (attached : Option Text)
  | unknown (text : Text)
deriving DecidableEq, Repr, Inhabited

/-- Why the program does not start: it was asked for help, or misused. -/
inductive Refusal where
  | help
  | misuse (misuse : Misuse)
deriving DecidableEq, Repr, Inhabited

-----------------------------------------------------------------------------------------
-- Words

/-- (isDigits cs) holds when all of `cs` are digits. -/
def isDigits (cs : List Letter) : Bool :=
  cs.all fun c => (Text.digitValue? c).isSome

/-- (isNegativeNumber cs) holds of a minus sign before a number, which has digits after its point
if it has one. A line end may follow.
-/
def isNegativeNumber : List Letter → Bool
  | .char '-' :: rest =>
      let cs := if rest.getLast? == some (.char '\n') then rest.dropLast else rest
      match Text.beforeFirst '.' cs with
      | some (whole, fraction) => isDigits whole && isDigits fraction && !fraction.isEmpty
      | none => isDigits cs && !cs.isEmpty
  | _ => false

/-- (splitAttached written) divides a word at its first equals sign. -/
def splitAttached (written : Text) : Text × Option Text :=
  match Text.beforeFirst '=' written.toList with
  | some (name, value) => (Text.ofList name, some (Text.ofList value))
  | none => (written, none)

/-- (attachedToHelp tail) is the value that is attached to the short flag of help by the
characters after it, which may be divided off by an equals sign. The flag may be repeated, and
whatever follows it otherwise is a value.
-/
def attachedToHelp (tail : List Letter) : Option Text :=
  let letters :=
    match tail with
    | .char '=' :: value => value
    | _ => tail
  match letters.dropWhile (· == 'h') with
  | [] => if letters.isEmpty then some "" else none
  | value => some (Text.ofList value)

/-- (readLong written) reads a word that begins with two dashes and is no exact spelling. -/
def readLong (written : Text) : Except Misuse (Option Word) :=
  let (name, attached) := splitAttached written
  match Flag.ofSpelling? name, Flag.beginningWith name with
  | some flag, _ => .ok (some (.flag flag attached))
  | none, [] => .ok none
  | none, [(_, flag)] => .ok (some (.flag flag attached))
  | none, entries => .error (.ambiguous written (entries.map Prod.fst))

/-- (readFlag written) reads a word as a flag, if it is one. -/
def readFlag (written : Text) : Except Misuse (Option Word) :=
  match Flag.ofSpelling? written, written.toList with
  | some flag, _ => .ok (some (.flag flag none))
  | none, .char '-' :: .char '-' :: _ => readLong written
  | none, .char '-' :: .char 'h' :: tail => .ok (some (.flag .help (attachedToHelp tail)))
  | none, _ => .ok none

/-- (readWord written) reads a word by itself. -/
def readWord (written : Text) : Except Misuse Word := do
  if !Text.startsWith written "-" || written == "-" then
    return .value written
  else
    match ← readFlag written with
    | some word => return word
    | none =>
        if isNegativeNumber written.toList || Text.contains written " " then
          return .value written
        else
          return .unknown written

/-- (readWords arguments) reads all words. -/
def readWords : List Text → Except Misuse (List Word)
  | [] => .ok []
  | written :: rest =>
      if written == "--" then
        .ok ((written :: rest).map Word.unknown)
      else do
        let word ← readWord written
        return word :: (← readWords rest)

-----------------------------------------------------------------------------------------
-- Options

/-- What the command line has said so far; of a flag that is repeated the last one counts. -/
structure Said where
  model : Option Text
  options : Options
  unrecognized : List Text
deriving DecidableEq, Repr, Inhabited

/-- (Said.nothing) are the options without any flag. -/
def Said.nothing : Said where
  model := none
  options :=
    { model := ""
      catalog := none
      settings := "config/settings.yaml"
      out := none
      workers := none
      includeTests := false
      scope := none
      verbose := false }
  unrecognized := []

/-- (Said.ignore said text) notes a word that nobody knows. -/
def Said.ignore (said : Said) (text : Text) : Said :=
  { said with unrecognized := said.unrecognized ++ [text] }

/-- (setSwitch said flag) notes a flag without a value. -/
def setSwitch (said : Said) (flag : Flag) : Except Refusal Said :=
  match flag with
  | .help => .error .help
  | .includeTests => .ok { said with options.includeTests := true }
  | .verbose => .ok { said with options.verbose := true }
  | _ => .ok said

/-- (setValue said flag value) notes a flag with its value. -/
def setValue (said : Said) (flag : Flag) (value : Text) : Except Refusal Said :=
  match flag with
  | .model => .ok { said with model := some value }
  | .catalog => .ok { said with options.catalog := some value }
  | .settings => .ok { said with options.settings := value }
  | .out => .ok { said with options.out := some value }
  | .workers =>
      match readInteger 10 value with
      | .ok workers => .ok { said with options.workers := some workers }
      | .error _ => .error (.misuse (.badInteger flag value))
  | .scope =>
      match Scope.all.find? fun scope => scope.name == value with
      | some scope => .ok { said with options.scope := some scope }
      | none => .error (.misuse (.badChoice flag value (Scope.all.map Scope.name)))
  | _ => .ok said

/-- (settle said words) goes through the words in order. -/
def settle : Said → List Word → Except Refusal Said
  | said, [] => .ok said
  | said, .value text :: rest | said, .unknown text :: rest => settle (said.ignore text) rest
  | said, .flag flag attached :: rest =>
      match flag.takesValue, attached, rest with
      | true, some value, rest => do settle (← setValue said flag value) rest
      | true, none, .value value :: rest => do settle (← setValue said flag value) rest
      | true, none, _ => .error (.misuse (.noValue flag))
      | false, some value, _ => .error (.misuse (.strayValue flag value))
      | false, none, rest => do settle (← setSwitch said flag) rest

/-- (finish said) are the options, when a program is given, all words are known, and there is at
least one worker.
-/
def finish (said : Said) : Except Misuse Options :=
  match said.model with
  | none => .error (.missing .model)
  | some model =>
      if !said.unrecognized.isEmpty then
        .error (.unrecognized said.unrecognized)
      else if said.options.workers.any (· < 1) then
        .error .tooFewWorkers
      else
        .ok { said.options with model }

/-- (Options.read arguments) reads the command line. -/
def Options.read (arguments : List Text) : Except Refusal Options := do
  let words ← (readWords arguments).mapError .misuse
  let said ← settle .nothing words
  (finish said).mapError .misuse

end ArkLifecycle.CommandLine
