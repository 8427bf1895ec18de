import ArkLifecycle.Proofs.Identification.Unhindered

/-! What skipped files of tests can still change in an identification.

The classes of skipped files are not examined. But superclasses are looked up in all files, so that
the role of an examined class may come from a skipped one. Where no superclass does, an
identification of the remaining files finds the same.
-/

namespace ArkLifecycle

open Activity Classification

namespace Program

/-- (withoutTests files) leaves out the files whose paths tell that they hold tests. -/
def withoutTests (files : List SourceFile) : List SourceFile :=
  files.filter fun file => !isTestPath file.path

theorem files_withoutTests (files : List SourceFile)
    : (ofFiles (withoutTests files)).files
      = (ofFiles files).files.filter fun file => !isTestPath file.path := by
  simp only [ofFiles, withoutTests, List.filter_map]
  rfl

/-- The classes of one program have the same superclasses in both programs. -/
def InheritsAlike (whole part : Program) : Prop :=
  ∀ decl ∈ part.classes, whole.superclass? decl = part.superclass? decl

/-- What is above a class is the same in both programs.
Witness: induction along the steps; each of them arrives at a class of the second program.
-/
theorem InheritsAlike.aboveApart_iff {whole part : Program} (alike : InheritsAlike whole part)
    (indexed : part.Indexed) {decl : ClassDecl} (member : decl ∈ part.classes) (name : Text)
    (ancestor : ClassDecl)
    : whole.AboveApart name decl ancestor ↔ part.AboveApart name decl ancestor := by
  have kept {ancestor : ClassDecl} (above : part.AboveApart name decl ancestor)
      : ancestor ∈ part.classes := by
    rcases Relation.ReflTransGen.cases_tail above with same | ⟨_, -, step⟩
    · exact same ▸ member
    · exact (indexed.superclass step.1).1
  constructor
  · intro above
    induction above with
    | refl => exact .refl
    | tail _ step ih =>
        rw [alike _ (kept ih)] at step
        exact ih.tail step
  · intro above
    induction above with
    | refl => exact .refl
    | tail below step ih =>
        rw [← alike _ (kept below)] at step
        exact ih.tail step

end Program

/-- The role of a class that was not generated is the same in both programs. -/
theorem Classification.ordinaryRole_alike {whole part : Program} (known : whole.Indexed)
    (indexed : part.Indexed) (alike : Program.InheritsAlike whole part) (catalog : Catalog)
    {decl : ClassDecl} (member : decl ∈ part.classes)
    : ordinaryRole whole catalog decl = ordinaryRole part catalog decl := by
  have descends
      : descendsFrom catalog.abilityBases whole decl
        = descendsFrom catalog.abilityBases part decl := by
    rw [Bool.eq_iff_iff, descendsFrom_iff known, descendsFrom_iff indexed]
    simp only [alike.aboveApart_iff indexed member]
  rw [ordinaryRole, descends, ordinaryRole]

namespace Identification

/-- The candidates are the same without the files that are skipped, and then none is skipped. -/
theorem candidates_withoutTests (catalog : Catalog) (files : List SourceFile)
    : candidates catalog true (files.filter fun file => !isTestPath file.path)
      = (candidates catalog true files).map fun chosen => { chosen with skippedFiles := 0 } := by
  have again
      : (files.filter fun file => !isTestPath file.path).filter (!isSkipped true ·)
        = files.filter fun file => !isTestPath file.path := by
    simp [List.filter_filter, isSkipped]
  have once : files.filter (!isSkipped true ·) = files.filter fun file => !isTestPath file.path :=
    rfl
  cases split : splitGenerated catalog
    (Program.classesOf (files.filter fun file => !isTestPath file.path)) with
  | error fault =>
      simp only [candidates, again, once, split]
      rfl
  | ok given =>
      simp only [candidates, again, once, split, Nat.sub_self]
      rfl

theorem foldl_addRecords_files (catalog : Catalog) (classes : List (ClassDecl × Role))
    (found : Identification) (totalFiles skippedFiles : Nat)
    : classes.foldl (addRecords catalog) { found with totalFiles, skippedFiles }
      = { classes.foldl (addRecords catalog) found with totalFiles, skippedFiles } := by
  induction classes generalizing found with
  | nil => rfl
  | cons classified rest ih => exact ih (addRecords catalog found classified)

/-- If no superclass comes from a file of tests, an identification that skips these files finds the
same without them. Only the numbers of files differ.
-/
theorem identifyIn_withoutTests {files : List SourceFile}
    (alike
      : Program.InheritsAlike (.ofFiles files) (.ofFiles (Program.withoutTests files)))
    (catalog : Catalog)
    : identifyIn (.ofFiles (Program.withoutTests files)) catalog true
      = (identifyIn (.ofFiles files) catalog true).map fun found =>
          { found with
            totalFiles := (Program.withoutTests files).length
            skippedFiles := 0 } := by
  have fewer : (Program.ofFiles (Program.withoutTests files)).files.length
      = (Program.withoutTests files).length :=
    List.length_map _
  unfold identifyIn
  rw [fewer, Program.files_withoutTests, candidates_withoutTests]
  cases listed : candidates catalog true (Program.ofFiles files).files with
  | error fault => rfl
  | ok chosen =>
      have roles
          : (chosen.classes.map fun decl =>
              (decl, givenRole (.ofFiles (Program.withoutTests files)) catalog decl))
            = chosen.classes.map fun decl => (decl, givenRole (.ofFiles files) catalog decl) := by
        refine List.map_congr_left fun decl member => ?_
        have remains : decl ∈ (Program.ofFiles (Program.withoutTests files)).classes := by
          rw [Program.classes, Program.files_withoutTests]
          rw [(candidates_partition listed).1] at member
          exact List.mem_of_mem_filter member
        rw [givenRole, givenRole, ordinaryRole_alike (Program.ofFiles_indexed files)
          (Program.ofFiles_indexed _) alike catalog remains]
      simp only [Except.map, bind, Except.bind, pure, Except.pure, roles]
      exact congrArg Except.ok (foldl_addRecords_files catalog _
        (blank (Program.ofFiles files).files.length chosen) _ _)

end Identification

end ArkLifecycle
