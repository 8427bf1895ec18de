import ArkLifecycle.Program.Index
import ArkLifecycle.Proofs.Text.Cutting
import Mathlib.Data.List.Forall2
import Std.Data.HashMap.Lemmas

/-! The indices of a program agree with a search through its files. -/

namespace ArkLifecycle.Program

-----------------------------------------------------------------------------------------
-- Filling the indices
-----------------------------------------------------------------------------------------

/-- Settling the classes of files leaves their methods as they are. -/
theorem methodsOf_settle (files : List SourceFile)
    : methodsOf (files.map SourceFile.settle) = methodsOf files := by
  have methods (path : Text) (decl : ClassDecl)
      : (if decl.filePath.isEmpty then { decl with filePath := path } else decl).methods
        = decl.methods := by
    split <;> rfl
  induction files with
  | nil => rfl
  | cons file rest ih =>
      simp only [methodsOf, classesOf, List.map_cons, List.flatMap_cons,
        List.flatMap_append] at ih ⊢
      rw [ih]
      simp only [SourceFile.settle, List.flatMap_map, methods]

/-- An index in which taken names are not entered again finds what it had before, and else the
first item entered.
Witness: induction over the items; an item whose name is taken changes nothing.
-/
theorem getElem?_foldl_insertIfNew {ι : Type} (name : ι → Text) (items : List ι)
    (index : Std.HashMap Text ι) (wanted : Text)
    : (items.foldl (fun index item => index.insertIfNew (name item) item) index)[wanted]?
      = (index[wanted]?).or (items.find? fun item => name item == wanted) := by
  induction items generalizing index with
  | nil => simp
  | cons item rest ih =>
      rw [List.foldl_cons, ih, Std.HashMap.getElem?_insertIfNew]
      by_cases same : name item = wanted
      · subst same
        cases found : index[name item]? with
        | none =>
            have absent : name item ∉ index := by
              simp [Std.HashMap.mem_iff_isSome_getElem?, found]
            simp [absent]
        | some earlier =>
            have taken : name item ∈ index := by
              simp [Std.HashMap.mem_iff_isSome_getElem?, found]
            simp [taken]
      · simp [same]

/-- A method is found by its signature exactly as by a search through the files. -/
theorem method?_ofFiles (files : List SourceFile) (signature : Text)
    : (ofFiles files).method? signature
      = (methodsOf files).find? fun method => method.signature == signature := by
  simp only [method?, ofFiles, methodsOf_settle]
  exact (getElem?_foldl_insertIfNew Method.signature _ ∅ signature).trans (by simp)

/-- An index that keeps all methods of a name has them in the order in which they were entered.
Witness: induction over the methods; each one comes after those of its name that were there.
-/
theorem getD_foldl_addName (methods : List Method) (index : Std.HashMap Text (Array Method))
    (wanted : Text)
    : ((methods.foldl addName index).getD wanted #[]).toList
      = (index.getD wanted #[]).toList ++ methods.filter fun method => method.name == wanted := by
  induction methods generalizing index with
  | nil => simp
  | cons method rest ih =>
      rw [List.foldl_cons, ih, addName, Std.HashMap.getD_insert]
      by_cases same : method.name = wanted
      · subst same
        simp
      · simp [same]

/-- The methods of a name are found exactly as by a search through the files. -/
theorem methodsNamed_ofFiles (files : List SourceFile) (name : Text)
    : (ofFiles files).methodsNamed name
      = (methodsOf files).filter fun method => method.name == name := by
  simp only [methodsNamed, ofFiles, methodsOf_settle]
  exact (getD_foldl_addName _ ∅ name).trans (by simp)

/-- A class is found by its name exactly as by a search through the files. -/
theorem class?_ofFiles (files : List SourceFile) (name : Text)
    : (ofFiles files).class? name
      = (ofFiles files).classes.find? fun decl => decl.name == name :=
  (getElem?_foldl_insertIfNew ClassDecl.name _ ∅ name).trans (by simp [classes, ofFiles])

-----------------------------------------------------------------------------------------
-- What a program answers
-----------------------------------------------------------------------------------------

/-- (FindsFirst holds items found) says that the first of the items of which something holds is
found, and nothing exactly if it holds of none.
-/
structure FindsFirst {ι : Type} (holds : ι → Prop) (items : List ι) (found : Option ι) : Prop where
  none_iff : found = none ↔ ∀ item ∈ items, ¬ holds item
  some_iff
    : ∀ item,
        found = some item
        ↔ holds item
          ∧ ∃ before after, items = before ++ item :: after ∧ ∀ earlier ∈ before, ¬ holds earlier

theorem findsFirst_find? {ι : Type} (name : ι → Text) (items : List ι) (wanted : Text)
    : FindsFirst (fun item => name item = wanted) items
        (items.find? fun item => name item == wanted) where
  none_iff := by simp
  some_iff item := by simp [List.find?_eq_some_iff_append]

/-- (SettledIn path decl settled) says that nothing of a class has changed but its file path, which
is its own if it had one, and else the given path.
-/
structure SettledIn (path : Text) (decl settled : ClassDecl) : Prop where
  unchanged : settled = { decl with filePath := settled.filePath }
  own : decl.filePath ≠ "" → settled.filePath = decl.filePath
  lent : decl.filePath = "" → settled.filePath = path

/-- The classes of a file are settled with its path. -/
theorem settle_classes (file : SourceFile)
    : List.Forall₂ (SettledIn file.path) file.classes file.settle.classes := by
  have each (decl : ClassDecl)
      : SettledIn file.path decl
          (if decl.filePath.isEmpty then { decl with filePath := file.path } else decl) := by
    by_cases empty : decl.filePath = ""
    · rw [if_pos (Text.isEmpty_iff.mpr empty)]
      exact ⟨rfl, fun given => absurd empty given, fun _ => rfl⟩
    · rw [if_neg (mt Text.isEmpty_iff.mp empty)]
      exact ⟨rfl, fun _ => rfl, fun none => absurd none empty⟩
  exact List.forall₂_map_right_iff.mpr (List.forall₂_same.mpr fun decl _ => each decl)

/-- (program.Agrees files) says that a program consists of the given files, with settled classes,
and answers every question as a search through them does.
-/
structure Agrees (program : Program) (files : List SourceFile) : Prop where
  settled
    : List.Forall₂
        (fun file settled =>
          settled.path = file.path
          ∧ List.Forall₂ (SettledIn file.path) file.classes settled.classes)
        files program.files
  method
    : ∀ signature,
        FindsFirst (fun method => method.signature = signature) (methodsOf files)
          (program.method? signature)
  named
    : ∀ name,
        program.methodsNamed name = (methodsOf files).filter fun method => method.name = name
  rootless
    : ∀ decl : ClassDecl, decl.superclass = "" → program.superclass? decl = none
  superclass
    : ∀ decl : ClassDecl,
        decl.superclass ≠ ""
        → FindsFirst (fun above => above.name = decl.superclass) program.classes
            (program.superclass? decl)

/-- The program of some files answers as a search through them does. The first method of a signature
is found, and all methods of a name in order. The superclass of a class is the first class of that
name, and there is none if the name is empty or there is no class of that name.
-/
theorem ofFiles_agrees (files : List SourceFile) : (ofFiles files).Agrees files where
  settled :=
    List.forall₂_map_right_iff.mpr
      (List.forall₂_same.mpr fun file _ => ⟨rfl, settle_classes file⟩)
  method signature := by
    rw [method?_ofFiles]
    exact findsFirst_find? Method.signature _ signature
  named name := by
    rw [methodsNamed_ofFiles]
    exact List.filter_congr fun method _ => beq_eq_decide method.name name
  rootless decl empty := by
    rw [superclass?, if_pos (Text.isEmpty_iff.mpr empty)]
  superclass decl given := by
    rw [superclass?, if_neg (mt Text.isEmpty_iff.mp given), class?_ofFiles]
    exact findsFirst_find? ClassDecl.name _ decl.superclass

end ArkLifecycle.Program
