import ArkLifecycle.Json.Access

/-! Operations that take arguments in order or by name.

An operation names its arguments, of which the last ones may be left out. Whatever else is given by
name is passed on as fields.
-/

namespace ArkLifecycle

/-- An operation: its title in messages, the arguments it needs and those it can do without. -/
structure Operation where
  title : Text
  required : List Text
  optional : List Text
deriving DecidableEq, Repr, Inhabited

namespace Operation

/-- (parameters operation) are the names of all arguments in order. -/
def parameters (operation : Operation) : List Text :=
  operation.required ++ operation.optional

/-- (takes operation name) holds when an argument has the name. -/
def takes (operation : Operation) (name : Scalar) : Bool :=
  operation.parameters.any fun parameter => name.same (.text parameter)

/-- (inOrder operation given) names the values that are given in order. -/
def inOrder (operation : Operation) (given : List Json) : Json.Fields :=
  (operation.parameters.map Scalar.text).zip given

/-- (bind operation given named) settles which argument has which value, and gives what is left of
the named values. That an argument is given twice is noticed first, then that there are too many,
then that one is missing.
-/
def bind (operation : Operation) (given : List Json) (named : Json.Fields)
    : Except Fault (Json.Fields × Json.Fields) :=
  let ordered := operation.inOrder given
  let arguments := ordered ++ named.filter fun field => operation.takes field.1
  match named.find? fun field => (Json.lookup ordered field.1).isSome with
  | some (.text name, _) => .error (.repeatedArgument operation.title name)
  | _ =>
      if operation.parameters.length < given.length then
        .error (.tooManyArguments operation.title operation.required.length
          operation.parameters.length given.length)
      else
        let isMissing (name : Text) : Bool := (Json.lookup arguments name).isNone
        match operation.required.find? isMissing with
        | some parameter => .error (.missingArgument operation.title parameter)
        | none => .ok (arguments, named.filter fun field => !operation.takes field.1)

/-- (inOrderOf title v) are the values that are given in order by a document. -/
def inOrderOf (title : Text) (v : Json) : Except Fault (List Json) :=
  v.items.mapError fun _ => .notArguments title v.shape

/-- (namedOf title v) are the values that are given by name by a document. -/
def namedOf (title : Text) : Json → Except Fault Json.Fields
  | .object fields => .ok fields
  | v => .error (.notNamedArguments title v.shape)

/-- (argument arguments name default) is the value of an argument, or a default without one. -/
def argument (arguments : Json.Fields) (name : Text) (default : Json) : Json :=
  (Json.lookup arguments name).getD default

end Operation

end ArkLifecycle
