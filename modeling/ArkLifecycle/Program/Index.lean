import ArkLifecycle.Program.Basic
import Std.Data.HashMap

/-! A program with indices by name.

Classes are found by name and methods by signature, and of several with one name or signature
the first one in the order of the files is found. Methods with one name are found together.
-/

namespace ArkLifecycle

/-- A program and its indices. `Program.ofFiles` builds them. -/
structure Program where
  files : List SourceFile
  classByName : Std.HashMap Text ClassDecl
  methodBySignature : Std.HashMap Text Method
  methodsByName : Std.HashMap Text (Array Method)

namespace SourceFile

/-- (settle file) gives every class without a file path the path of its file. -/
def settle (file : SourceFile) : SourceFile :=
  { file with
    classes := file.classes.map fun decl =>
      if decl.filePath.isEmpty then { decl with filePath := file.path } else decl }

end SourceFile

namespace Program

/-- (classesOf files) are the classes of all files in order. -/
def classesOf (files : List SourceFile) : List ClassDecl :=
  files.flatMap SourceFile.classes

/-- (methodsOf files) are the methods of all classes in order. -/
def methodsOf (files : List SourceFile) : List Method :=
  (classesOf files).flatMap ClassDecl.methods

/-- (addClass index decl) enters a class unless its name is taken. -/
def addClass (index : Std.HashMap Text ClassDecl) (decl : ClassDecl)
    : Std.HashMap Text ClassDecl :=
  index.insertIfNew decl.name decl

/-- (addSignature index method) enters a method unless its signature is taken. -/
def addSignature (index : Std.HashMap Text Method) (method : Method)
    : Std.HashMap Text Method :=
  index.insertIfNew method.signature method

/-- (addName index method) enters a method after those of the same name. -/
def addName (index : Std.HashMap Text (Array Method)) (method : Method)
    : Std.HashMap Text (Array Method) :=
  index.insert method.name ((index.getD method.name #[]).push method)

/-- (ofFiles files) is the program of the given files. -/
def ofFiles (files : List SourceFile) : Program :=
  let files := files.map SourceFile.settle
  { files := files
    classByName := (classesOf files).foldl addClass ∅
    methodBySignature := (methodsOf files).foldl addSignature ∅
    methodsByName := (methodsOf files).foldl addName ∅ }

/-- (classes program) are the classes of the program in order. -/
def classes (program : Program) : List ClassDecl :=
  classesOf program.files

/-- (class? program name) is the first class of that name. -/
def class? (program : Program) (name : Text) : Option ClassDecl :=
  program.classByName[name]?

/-- (superclass? program decl) is the class that `decl` extends, when the program has it. -/
def superclass? (program : Program) (decl : ClassDecl) : Option ClassDecl :=
  if decl.superclass.isEmpty then none else program.class? decl.superclass

/-- (method? program signature) is the first method with that signature. -/
def method? (program : Program) (signature : Text) : Option Method :=
  program.methodBySignature[signature]?

/-- (methodsNamed program name) are the methods of that name in order. -/
def methodsNamed (program : Program) (name : Text) : List Method :=
  (program.methodsByName.getD name #[]).toList

end Program

/-- (ClassDecl.carries decl marker) holds when the class is decorated with the marker. -/
def ClassDecl.carries (decl : ClassDecl) (marker : Json) : Bool :=
  decl.decorators.any marker.isText

end ArkLifecycle
