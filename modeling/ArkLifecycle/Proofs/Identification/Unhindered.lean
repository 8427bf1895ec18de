import ArkLifecycle.Proofs.Identification.CatalogGrowth

/-! The identification that nobody hinders.

When no question is denied, an identification depends on the program and the catalog alone. What it
gives is said here without a session, and also that it looks at classes of the program only.
-/

namespace ArkLifecycle

open Activity Classification

namespace Identification

-----------------------------------------------------------------------------------------
-- Identifications when nobody denies a question
-----------------------------------------------------------------------------------------

/-- (givenRole program catalog decl) is the role that a class gets when nobody denies a question:
none if a pattern speaks against it, or if that cannot be told.
-/
def givenRole (program : Program) (catalog : Catalog) (decl : ClassDecl) : Role :=
  if Handwritten catalog decl then ordinaryRole program catalog decl else .none

/-- (addRecords catalog found classified) adds a class of some role and its records. -/
def addRecords (catalog : Catalog) (found : Identification) (classified : ClassDecl × Role)
    : Identification :=
  { found.addClass classified.1 classified.2 with
    records := found.records ++ recordsAs catalog classified.1 classified.2
    totalMethods := found.totalMethods + classified.1.methods.length }

/-- (blank totalFiles chosen) is an identification to which no class has been added. -/
def blank (totalFiles : Nat) (chosen : Candidates) : Identification where
  records := []
  roles := []
  totalFiles
  totalClasses := 0
  totalMethods := 0
  abilityClasses := 0
  componentClasses := 0
  skippedFiles := chosen.skippedFiles
  skippedClasses := chosen.skippedClasses

/-- (identifyIn program catalog skipTests) is the identification when nobody denies a question. -/
def identifyIn (program : Program) (catalog : Catalog) (skipTests : Bool)
    : Except Fault Identification := do
  let chosen ← candidates catalog skipTests program.files
  return (chosen.classes.map fun decl => (decl, givenRole program catalog decl)).foldl
    (addRecords catalog) (blank program.files.length chosen)

variable {host : Host}

theorem classifyAll_obliged (obliging : host.Obliging) (program : Program) (catalog : Catalog)
    (classes : List ClassDecl) (before : Session)
    : ∃ after,
        outcome (classifyAll host program catalog classes) before
          = (.ok (classes.map fun decl => (decl, givenRole program catalog decl)), after) := by
  induction classes generalizing before with
  | nil => exact ⟨before, rfl⟩
  | cons decl rest ih =>
      obtain ⟨role, middle, done, ordinary, generated⟩ :=
        classify_obliged obliging program catalog decl before
      have given : role = givenRole program catalog decl := by
        unfold givenRole
        split
        · next handwritten => exact ordinary handwritten
        · next spoken => exact generated spoken
      subst given
      obtain ⟨after, rested⟩ := ih middle
      refine ⟨after, ?_⟩
      rw [classifyAll, outcome_bind_ok done, outcome_bind_ok rested]
      rfl

theorem collect_obliged (obliging : host.Obliging) (catalog : Catalog)
    (classes : List (ClassDecl × Role)) (found : Identification) (before : Session)
    : ∃ after,
        outcome (collect host catalog found classes) before
          = (.ok (classes.foldl (addRecords catalog) found), after) := by
  induction classes generalizing found before with
  | nil => exact ⟨before, rfl⟩
  | cons classified rest ih =>
      -- The questions concern a class of some program; which one does not matter here.
      obtain ⟨middle, -, done, -⟩ :=
        (classRecords_answers host (.ofFiles []) catalog classified.1 classified.2).obliged
          obliging before
      have tried := outcome_attempt (classRecords host catalog classified.1 classified.2) before
      rw [done] at tried
      obtain ⟨after, rested⟩ := ih (addRecords catalog found classified) middle
      refine ⟨after, ?_⟩
      rw [collect, outcome_bind_ok tried]
      exact rested

/-- To an obliging host an identification is told truthfully, or fails for a pattern that is no
text.
-/
theorem identify_obliged (obliging : host.Obliging) (program : Program) (catalog : Catalog)
    (skipTests : Bool) (before : Session)
    : ∃ after,
        outcome (identify host program catalog skipTests) before
          = (identifyIn program catalog skipTests, after) := by
  unfold identify identifyIn
  cases listed : candidates catalog skipTests program.files with
  | error fault => exact ⟨before, outcome_bind_error (outcome_lift _ _)⟩
  | ok chosen =>
      obtain ⟨middle, classified⟩ :=
        classifyAll_obliged obliging program catalog chosen.classes before
      obtain ⟨after, collected⟩ := collect_obliged obliging catalog
        (chosen.classes.map fun decl => (decl, givenRole program catalog decl))
        (blank program.files.length chosen) middle
      refine ⟨after, ?_⟩
      rw [outcome_bind_ok (outcome_lift _ _), outcome_bind_ok classified]
      exact collected

/-- If all patterns are texts, an identification finds the records of the declarations.
Witness: it is what a host is told that denies nothing.
-/
theorem identifyIn_declarations {catalog : Catalog} (texts : catalog.PatternsAreTexts)
    (program : Program) (skipTests : Bool)
    : ∃ found,
        identifyIn program catalog skipTests = .ok found
        ∧ found.records
          = (declarations catalog skipTests program.files).filterMap
              (recordAt program catalog) := by
  obtain ⟨found, _, done, records⟩ :=
    identify_declarations Host.willing_denies_nothing program texts skipTests .fresh
  obtain ⟨_, told⟩ :=
    identify_obliged Host.willing_denies_nothing program catalog skipTests .fresh
  rw [told] at done
  exact ⟨found, congrArg Prod.fst done, records⟩

theorem not_texts_of_identifyIn {program : Program} {catalog : Catalog} {skipTests : Bool}
    {fault : Fault} (failed : identifyIn program catalog skipTests = .error fault)
    : ¬ catalog.PatternsAreTexts := by
  intro texts
  obtain ⟨found, identified, -⟩ := identifyIn_declarations texts program skipTests
  rw [failed] at identified
  cases identified

-----------------------------------------------------------------------------------------
-- Where records come from
-----------------------------------------------------------------------------------------

theorem foldl_addRecords_records (catalog : Catalog) (classes : List (ClassDecl × Role))
    (found : Identification)
    : (classes.foldl (addRecords catalog) found).records
      = found.records
        ++ classes.flatMap fun classified => recordsAs catalog classified.1 classified.2 := by
  induction classes generalizing found with
  | nil => simp
  | cons classified rest ih => simp [ih, addRecords]

/-- A record holds a method of the program, and has its signature. -/
theorem identifyIn_method {program : Program} {catalog : Catalog} {skipTests : Bool}
    {found : Identification} (done : identifyIn program catalog skipTests = .ok found)
    {record : Record} (member : record ∈ found.records)
    : ∃ method ∈ Program.methodsOf program.files,
        record.method = some method ∧ record.signature = method.signature := by
  unfold identifyIn at done
  cases listed : candidates catalog skipTests program.files with
  | error fault =>
      rw [listed] at done
      cases done
  | ok chosen =>
      rw [listed] at done
      cases done
      rw [foldl_addRecords_records, blank, List.nil_append] at member
      obtain ⟨classified, examined, given⟩ := List.mem_flatMap.mp member
      obtain ⟨decl, inside, rfl⟩ := List.mem_map.mp examined
      obtain ⟨method, declared, recorded⟩ := List.mem_filterMap.mp given
      obtain ⟨kind, -, rfl⟩ := Option.map_eq_some_iff.mp recorded
      rw [(candidates_partition listed).1] at inside
      have whole := examined_subset catalog skipTests program.files inside
      exact ⟨method, List.mem_flatMap.mpr ⟨decl, whole, declared⟩, rfl, rfl⟩

end Identification

end ArkLifecycle
