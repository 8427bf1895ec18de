import ArkLifecycle.Json.Basic
import ArkLifecycle.Text.Encoding
import ArkLifecycle.Text.Quoted

/-! Everything that can go wrong, as causes.

A fault says what happened and to what; its wording is given once, by `Fault.message`. Where it
shows a document, it holds what is shown, because some documents cannot be shown at all.
-/

namespace ArkLifecycle

/-- One disagreement between a document and a schema: where it is and what it is. -/
structure Violation where
  path : List Text
  message : Text
deriving DecidableEq, Repr, Inhabited

/-- (Violation.render violation) says where a document disagrees and how. -/
def Violation.render (violation : Violation) : Text :=
  let place := Text.joinWith "." violation.path
  let shown : Text := if place.isEmpty then "<root>" else place
  shown ++ ": " ++ violation.message

/-- A cause of failure. -/
inductive Fault where
  /-- A part of the document is asked for a capability its shape does not have. -/
  | noCapability (shape : Shape) (capability : Text)
  /-- A part of the document that should be gone through has no items. -/
  | notIterable (shape : Shape)
  /-- A list or mapping stands where a name is needed. -/
  | notAName (shape : Shape)
  /-- What should be an integer to some base is none. -/
  | badInteger (base : Nat) (shown : Text)
  /-- A text that should be a floating-point number is none. -/
  | badFloat (text : Text)
  /-- A text that should be a number has no character. -/
  | emptyNumeral
  /-- A part of the document that should be an integer has no numeric meaning. -/
  | notNumeric (shape : Shape)
  /-- An integer was asked for and the number is undefined. -/
  | undefinedInteger
  /-- An integer was asked for and the number is infinite. -/
  | infiniteInteger
  /-- A written integer has more digits than are read. -/
  | integerTooLong (digits : Nat)
  /-- An integer has more digits than are written. -/
  | integerTooLongToShow
  /-- A count was to be divided by none. -/
  | divisionByZero
  /-- An integer lies beyond the floating-point numbers. -/
  | integerTooLarge
  /-- A pattern to be looked for in a text is no text. -/
  | notAPattern (shape : Shape)
  /-- A bound cannot be compared with a count. -/
  | notABound (shape : Shape)
  /-- Two values cannot be compared by size. -/
  | notOrdered (left right : Shape)
  /-- A text was needed. -/
  | notAText (shape : Shape)
  /-- A value without parts was asked for one of them. -/
  | noParts (shape : Shape)
  /-- A part of a text was asked for by name. -/
  | textPart
  /-- An item of a list was asked for by something that is no number. -/
  | listPart (index : Shape)
  /-- A value without parts was to be given one. -/
  | notAssignable (shape : Shape)
  /-- A value cannot be written with fixed decimal places. -/
  | noDecimals (shape : Shape)
  /-- A pair was needed and the sequence has another length. -/
  | pairLength (index length : Nat)
  /-- Two parts were needed and the sequence has another length. -/
  | unpackLength (length : Nat)
  /-- Two parts were needed and the value has no items. -/
  | notUnpackable (shape : Shape)
  /-- A pair was needed and the value has no items. -/
  | notAPair (index : Nat)
  /-- A path was needed and the value is no text. -/
  | notAPath (shape : Shape)
  /-- A path was to be continued by a value that is no text. -/
  | notJoinable (shape : Shape)
  /-- The text of a file was to be written and the value is no text. -/
  | notWritable (shape : Shape)
  /-- A variable of the environment was to be set and the value is no text. -/
  | notAVariable (shape : Shape)
  /-- An index lies beyond the end of a list. -/
  | outOfRange
  /-- An index lies beyond the end of every list. -/
  | indexTooLarge
  /-- Something was looked for in a value that has no members. -/
  | noMembers (shape : Shape)
  /-- A name is not among the keys. -/
  | missingKey (key : Text)
  /-- A value names no kind of callback. -/
  | unknownKind (shown : Text)
  /-- No built-in catalog has this version. -/
  | unknownCatalog (shown : Text) (known : List Text)
  /-- A catalog file gives no version. -/
  | catalogWithoutVersion
  /-- A catalog file lists no callback at all. -/
  | catalogWithoutMethods
  /-- A catalog recommends a callback of no known kind. -/
  | badRecommendation (version shown : Text)
  /-- An analysis scope is not one of those there are. -/
  | unknownScope (shown : Text) (known : List Text)
  /-- A settings file is no mapping. -/
  | settingsNotMapping (path : Text)
  /-- An analysis is about neither a file nor a project. -/
  | noSubject
  /-- A schema asks a document for a type that there is not. -/
  | unknownType (shown schema document : Text)
  /-- A document disagrees with a schema. -/
  | schemaViolated (schema : Text) (violations : List Violation)
  /-- A text is no JSON document. -/
  | malformedJson
  /-- A JSON text goes too deep; the innermost part is a list or a mapping. -/
  | nestedTooDeep (part : Shape)
  /-- A document goes too deep to be written on one line. -/
  | nestedTooDeepToWrite
  /-- The parts of a YAML text are nested, or refer to each other, too deep. -/
  | tooDeep
  /-- A text is no YAML document. -/
  | malformedYaml
  /-- Numbers are no day or moment. -/
  | calendar (fault : CalendarFault)
  /-- A document has a part that JSON does not know. -/
  | notJson (shape : Shape)
  /-- A mapping has a name that JSON does not know. -/
  | notJsonName (word : Text)
  /-- A document stands inside of itself and cannot be written. -/
  | endless
  /-- A text cannot be written as bytes. -/
  | notEncodable (gap : Text.Gap)
  /-- An escape stands for a code that is no character. -/
  | codeOutOfRange
  /-- An escape stands for a code that is too large for any use. -/
  | codeTooLarge
  /-- An argument of an operation is given twice. -/
  | repeatedArgument (operation argument : Text)
  /-- An operation is given more arguments than the least and the most it takes. -/
  | tooManyArguments (operation : Text) (least most given : Nat)
  /-- An argument of an operation is not given. -/
  | missingArgument (operation argument : Text)
  /-- The arguments of an operation are given by a value that has no items. -/
  | notArguments (operation : Text) (shape : Shape)
  /-- The named arguments of an operation are given by a value that is no mapping. -/
  | notNamedArguments (operation : Text) (shape : Shape)
  /-- A path holds a NUL, which no name can. -/
  | nullInPath
  /-- A path, or a name on its way, is too long. -/
  | nameTooLong (path : Text)
  /-- A file does not exist. -/
  | fileNotFound (path : Text)
  /-- A file was needed and the path is a directory. -/
  | isDirectory (path : Text)
  /-- A directory was needed on the way and the path leads through a file. -/
  | notDirectory (path : Text)
  /-- A directory was to be made where a file is. -/
  | fileExists (path : Text)
  /-- A collaborator of the analysis failed, for a reason of its own. -/
  | collaborator (message : Text)
deriving DecidableEq, Repr, Inhabited

/-- (Shape.name shape) is the word for a shape in messages. -/
def Shape.name : Shape → Text
  | .null => "NoneType"
  | .bool => "bool"
  | .int => "int"
  | .float => "float"
  | .text => "str"
  | .bytes => "bytes"
  | .date => "datetime.date"
  | .moment => "datetime.datetime"
  | .pair => "tuple"
  | .array => "list"
  | .object => "dict"
  | .set => "set"

/-- (Shape.shortName shape) is the last part of the word for a shape. -/
def Shape.shortName : Shape → Text
  | .date => "date"
  | .moment => "datetime"
  | shape => shape.name

namespace Fault

/-- (systemError number reason path) words a failed file operation. -/
def systemError (number : Nat) (reason path : Text) : Text :=
  "[Errno " ++ Text.ofNat number ++ "] " ++ reason ++ ": " ++ Text.quoted path

/-- (numeralLimit) is the number of digits that a written integer may have. -/
def numeralLimit : Nat := 4300

/-- (excerptLength) is how much of a bad numeral is shown. -/
def excerptLength : Nat := 200

/-- (limitWording) names the limit on the digits of integers. -/
def limitWording : Text :=
  "Exceeds the limit (" ++ Text.ofNat numeralLimit ++ " digits) for integer string conversion"

/-- (limitAdvice) says how the limit could be raised. -/
def limitAdvice : Text :=
  "; use sys.set_int_max_str_digits() to increase the limit"

/-- (gapWording gap) says which letters of a text cannot be written. -/
def gapWording (gap : Text.Gap) : Text :=
  if gap.first = gap.last then
    "character '" ++ Text.ofChars (Text.codeEscape gap.letter.code) ++ "' in position "
      ++ Text.ofNat gap.first
  else
    "characters in position " ++ Text.ofNat gap.first ++ "-" ++ Text.ofNat gap.last

/-- (countWording least most) says how many arguments an operation takes. -/
def countWording (least most : Nat) : Text :=
  let range := if least == most then Text.ofNat most else
    "from " ++ Text.ofNat least ++ " to " ++ Text.ofNat most
  range ++ " positional argument" ++ (if most == 1 then "" else "s")

/-- (partWord part) is the word for a part of a JSON text. -/
def partWord : Shape → Text
  | .array => "array"
  | .object => "object"
  | shape => shape.name

/-- (message fault) is the wording of a fault. -/
def message : Fault → Text
  | .noCapability shape capability =>
      "'" ++ shape.name ++ "' object has no attribute '" ++ capability ++ "'"
  | .notIterable shape => "'" ++ shape.name ++ "' object is not iterable"
  | .notAName shape => "unhashable type: '" ++ shape.name ++ "'"
  | .badInteger base shown =>
      "invalid literal for int() with base " ++ Text.ofNat base ++ ": "
        ++ Text.takeText excerptLength shown
  | .badFloat text => "could not convert string to float: " ++ Text.quoted text
  | .emptyNumeral => "string index out of range"
  | .notNumeric shape =>
      "int() argument must be a string, a bytes-like object or a real number, not '"
        ++ shape.name ++ "'"
  | .undefinedInteger => "cannot convert float NaN to integer"
  | .infiniteInteger => "cannot convert float infinity to integer"
  | .integerTooLong digits =>
      limitWording ++ ": value has " ++ Text.ofNat digits ++ " digits" ++ limitAdvice
  | .integerTooLongToShow => limitWording ++ limitAdvice
  | .divisionByZero => "division by zero"
  | .integerTooLarge => "int too large to convert to float"
  | .notAPattern shape => "'in <string>' requires string as left operand, not " ++ shape.name
  | .notABound shape =>
      "'>=' not supported between instances of 'int' and '" ++ shape.name ++ "'"
  | .notOrdered left right =>
      "'<' not supported between instances of '" ++ left.name ++ "' and '" ++ right.name ++ "'"
  | .notAText shape => "expected string or bytes-like object, got '" ++ shape.name ++ "'"
  | .noParts shape => "'" ++ shape.name ++ "' object is not subscriptable"
  | .textPart => "string indices must be integers, not 'str'"
  | .listPart index => "list indices must be integers or slices, not " ++ index.name
  | .notAssignable shape => "'" ++ shape.name ++ "' object does not support item assignment"
  | .noDecimals .text => "Unknown format code 'f' for object of type 'str'"
  | .noDecimals shape => "unsupported format string passed to " ++ shape.name ++ ".__format__"
  | .pairLength index length =>
      "dictionary update sequence element #" ++ Text.ofNat index ++ " has length "
        ++ Text.ofNat length ++ "; 2 is required"
  | .unpackLength length =>
      if length < 2 then
        "not enough values to unpack (expected 2, got " ++ Text.ofNat length ++ ")"
      else
        "too many values to unpack (expected 2)"
  | .notUnpackable shape => "cannot unpack non-iterable " ++ shape.name ++ " object"
  | .notAPair index =>
      "cannot convert dictionary update sequence element #" ++ Text.ofNat index
        ++ " to a sequence"
  | .notAPath .bytes =>
      "argument should be a str object or an os.PathLike object returning str, not <class 'bytes'>"
  | .notAPath shape => "expected str, bytes or os.PathLike object, not " ++ shape.shortName
  | .notJoinable shape =>
      "unsupported operand type(s) for /: 'PosixPath' and '" ++ shape.name ++ "'"
  | .notWritable shape => "data must be str, not " ++ shape.name
  | .notAVariable shape => "str expected, not " ++ shape.name
  | .outOfRange => "list index out of range"
  | .indexTooLarge => "cannot fit 'int' into an index-sized integer"
  | .noMembers shape => "argument of type '" ++ shape.name ++ "' is not iterable"
  | .missingKey key => Text.quoted key
  | .unknownKind shown => shown ++ " is not a valid LifecycleKind"
  | .unknownCatalog shown known =>
      "Unknown lifecycle catalog version " ++ shown ++ " (known: "
        ++ Text.joinWith ", " known ++ ")"
  | .catalogWithoutVersion => "Lifecycle catalog missing version"
  | .catalogWithoutMethods => "Lifecycle catalog missing methods"
  | .badRecommendation version shown =>
      "Catalog " ++ version ++ " has invalid recommendation kind " ++ shown
  | .unknownScope shown known =>
      "Unknown analysis scope: " ++ shown ++ " (expected one of "
        ++ Text.joinWith ", " known ++ ")"
  | .settingsNotMapping path => "Settings file " ++ path ++ " must contain a mapping"
  | .noSubject => "model_path or project is required"
  | .unknownType shown schema document =>
      "Unknown type " ++ shown ++ " for validator with schema:\n    " ++ schema
        ++ "\n\nWhile checking instance:\n    " ++ document
  | .schemaViolated schema violations =>
      "Schema validation failed for " ++ schema ++ ": "
        ++ Text.joinWith "; " (violations.map Violation.render)
  | .malformedJson => "malformed JSON text"
  | .tooDeep => "maximum recursion depth exceeded"
  | .nestedTooDeep part =>
      "maximum recursion depth exceeded while decoding a JSON " ++ partWord part
        ++ " from a unicode string"
  | .nestedTooDeepToWrite => "maximum recursion depth exceeded while encoding a JSON object"
  | .malformedYaml => "malformed YAML text"
  | .calendar fault => fault.message
  | .notJson shape => "Object of type " ++ shape.shortName ++ " is not JSON serializable"
  | .notJsonName word => "keys must be str, int, float, bool or None, not " ++ word
  | .endless => "Circular reference detected"
  | .notEncodable gap =>
      "'utf-8' codec can't encode " ++ gapWording gap ++ ": surrogates not allowed"
  | .codeOutOfRange => "chr() arg not in range(0x110000)"
  | .codeTooLarge => "Python int too large to convert to C int"
  | .repeatedArgument operation argument =>
      operation ++ "() got multiple values for argument " ++ Text.quoted argument
  | .tooManyArguments operation least most given =>
      operation ++ "() takes " ++ countWording least most ++ " but " ++ Text.ofNat given
        ++ (if given == 1 then " was given" else " were given")
  | .missingArgument operation argument =>
      operation ++ "() missing 1 required positional argument: " ++ Text.quoted argument
  | .notArguments operation shape =>
      operation ++ "() argument after * must be an iterable, not " ++ shape.name
  | .notNamedArguments operation shape =>
      operation ++ "() argument after ** must be a mapping, not " ++ shape.name
  | .nullInPath => "embedded null byte"
  | .nameTooLong path => systemError 36 "File name too long" path
  | .fileNotFound path => systemError 2 "No such file or directory" path
  | .isDirectory path => systemError 21 "Is a directory" path
  | .notDirectory path => systemError 20 "Not a directory" path
  | .fileExists path => systemError 17 "File exists" path
  | .collaborator text => text

end Fault

end ArkLifecycle
