import ArkLifecycle.Text.Quoted

/-! The flags of the command line, how they are spelled, and how they can be misused. -/

namespace ArkLifecycle.CommandLine

/-- What can be said on the command line. -/
inductive Flag where
  | help
  | model
  | catalog
  | settings
  | out
  | workers
  | includeTests
  | scope
  | verbose
deriving DecidableEq, Repr, Inhabited

/-- (programName) is the name of the program in its messages. -/
def programName : Text := "lifecycle-analyzer"

namespace Flag

/-- (all) lists the flags in the order of the help text. -/
def all : List Flag :=
  [.help, .model, .catalog, .settings, .out, .workers, .includeTests, .scope, .verbose]

/-- (spellings flag) are the ways to write a flag. -/
def spellings : Flag → List Text
  | .help => ["-h", "--help"]
  | .model => ["--model"]
  | .catalog => ["--catalog"]
  | .settings => ["--settings"]
  | .out => ["--out"]
  | .workers => ["--workers"]
  | .includeTests => ["--include-tests"]
  | .scope => ["--scope"]
  | .verbose => ["--verbose"]

/-- (label flag) is how messages name a flag. -/
def label (flag : Flag) : Text :=
  Text.joinWith "/" flag.spellings

/-- (takesValue flag) holds of flags that a value belongs to. -/
def takesValue : Flag → Bool
  | .help | .includeTests | .verbose => false
  | _ => true

/-- (spelled) lists all spellings with their flags. -/
def spelled : List (Text × Flag) :=
  all.flatMap fun flag => flag.spellings.map fun spelling => (spelling, flag)

/-- (ofSpelling? written) is the flag that is spelled exactly so. -/
def ofSpelling? (written : Text) : Option Flag :=
  (spelled.find? fun entry => entry.1 == written).map Prod.snd

/-- (beginningWith written) are the spellings that begin so, with their flags. -/
def beginningWith (written : Text) : List (Text × Flag) :=
  spelled.filter fun entry => Text.startsWith entry.1 written

end Flag

/-- What is wrong with a command line. -/
inductive Misuse where
  /-- An abbreviation stands for several flags. -/
  | ambiguous (written : Text) (spellings : List Text)
  /-- A flag lacks its value. -/
  | noValue (flag : Flag)
  /-- A flag that takes no value has one. -/
  | strayValue (flag : Flag) (value : Text)
  /-- The value of a flag should be an integer and is none. -/
  | badInteger (flag : Flag) (value : Text)
  /-- The value of a flag is not one of those there are. -/
  | badChoice (flag : Flag) (value : Text) (choices : List Text)
  /-- A flag that must be given is not. -/
  | missing (flag : Flag)
  /-- Nobody knows what these words mean. -/
  | unrecognized (words : List Text)
  /-- The number of workers is zero or less. -/
  | tooFewWorkers
deriving DecidableEq, Repr, Inhabited

namespace Misuse

/-- (about flag text) words what is wrong with a flag. -/
def about (flag : Flag) (text : Text) : Text :=
  "argument " ++ flag.label ++ ": " ++ text

/-- (message misuse) is the wording of a misuse. -/
def message : Misuse → Text
  | .ambiguous written spellings =>
      "ambiguous option: " ++ written ++ " could match " ++ Text.joinWith ", " spellings
  | .noValue flag => about flag "expected one argument"
  | .strayValue flag value => about flag ("ignored explicit argument " ++ Text.quoted value)
  | .badInteger flag value => about flag ("invalid int value: " ++ Text.quoted value)
  | .badChoice flag value choices =>
      about flag ("invalid choice: " ++ Text.quoted value ++ " (choose from "
        ++ Text.joinWith ", " (choices.map Text.quoted) ++ ")")
  | .missing flag => "the following arguments are required: " ++ flag.label
  | .unrecognized words => "unrecognized arguments: " ++ Text.joinWith " " words
  | .tooFewWorkers => "--workers must be at least 1."

/-- (errorLine misuse) is the line that tells of a misuse. -/
def errorLine (misuse : Misuse) : Text :=
  programName ++ ": error: " ++ misuse.message

end Misuse

end ArkLifecycle.CommandLine
