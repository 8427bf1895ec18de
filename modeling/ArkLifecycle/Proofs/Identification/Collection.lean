import ArkLifecycle.Proofs.Identification.Unhindered

/-! What an identification is put together from, whatever is denied to it.

Every examined class gets a role and is counted. Then it adds all records of that role and the
number of its methods, or neither of them because a question was denied. The roles, the records and
the counts of an identification follow from these steps.
-/

namespace ArkLifecycle.Identification

open Activity Classification

-----------------------------------------------------------------------------------------
-- Classes one after the other
-----------------------------------------------------------------------------------------

/-- From one identification to another some classes are added, each of them with the records of its
role, or without because a question about it was denied.
-/
inductive Collects (catalog : Catalog)
    : List (ClassDecl × Role) → Identification → Identification → Prop
  | done {found : Identification}
    : Collects catalog [] found found
  | told {classified : ClassDecl × Role} {rest : List (ClassDecl × Role)}
    {found final : Identification}
    (others : Collects catalog rest (addRecords catalog found classified) final)
    : Collects catalog (classified :: rest) found final
  | denied {classified : ClassDecl × Role} {rest : List (ClassDecl × Role)}
    {found final : Identification}
    (others : Collects catalog rest (found.addClass classified.1 classified.2) final)
    : Collects catalog (classified :: rest) found final

/-- Collecting never fails, and adds one class after the other. -/
theorem collect_collects (host : Host) (catalog : Catalog) (classes : List (ClassDecl × Role))
    (found : Identification) (before : Session)
    : ∃ final after,
        outcome (collect host catalog found classes) before = (.ok final, after)
        ∧ Collects catalog classes found final := by
  induction classes generalizing found before with
  | nil => exact ⟨found, before, rfl, .done⟩
  | cons classified rest ih =>
      -- The questions concern a class of some program; which one does not matter here.
      obtain ⟨asked, step, concerned, answered⟩ :=
        classRecords_answers host (.ofFiles []) catalog classified.1 classified.2 before
      have tried := outcome_attempt (classRecords host catalog classified.1 classified.2) before
      rcases answered with told | ⟨⟨fault, denied⟩, -⟩
      · rw [told] at tried
        obtain ⟨final, after, rested, others⟩ := ih (addRecords catalog found classified)
          (outcome (classRecords host catalog classified.1 classified.2) before).2
        refine ⟨final, after, ?_, .told others⟩
        rw [collect, outcome_bind_ok tried]
        exact rested
      · rw [denied] at tried
        obtain ⟨final, after, rested, others⟩ := ih (found.addClass classified.1 classified.2)
          (outcome (classRecords host catalog classified.1 classified.2) before).2
        refine ⟨final, after, ?_, .denied others⟩
        rw [collect, outcome_bind_ok tried]
        exact rested

/-- Telling the role of a class never fails. -/
theorem classify_total (host : Host) (program : Program) (catalog : Catalog) (decl : ClassDecl)
    (before : Session)
    : ∃ role after, outcome (classify host program catalog decl) before = (.ok role, after) := by
  rw [classify, outcome_bind, outcome_attempt]
  rcases (outcome (roleOf host program catalog decl) before).1 with fault | role
  · exact ⟨.none, _, rfl⟩
  · exact ⟨role, _, rfl⟩

/-- The class was given the role that it was told to have in some session. -/
def Classified (host : Host) (program : Program) (catalog : Catalog)
    (entry : ClassDecl × Role)
    : Prop :=
  ∃ session after,
    outcome (classify host program catalog entry.1) session = (.ok entry.2, after)

theorem classifyAll_classified (host : Host) (program : Program) (catalog : Catalog)
    (classes : List ClassDecl) (before : Session)
    : ∃ classified after,
        outcome (classifyAll host program catalog classes) before = (.ok classified, after)
        ∧ classified.map Prod.fst = classes
        ∧ ∀ entry ∈ classified, Classified host program catalog entry := by
  induction classes generalizing before with
  | nil => exact ⟨[], before, rfl, rfl, by simp⟩
  | cons decl rest ih =>
      obtain ⟨role, middle, done⟩ := classify_total host program catalog decl before
      obtain ⟨classified, after, rested, same, told⟩ := ih middle
      refine ⟨(decl, role) :: classified, after, ?_, by simp [same], ?_⟩
      · rw [classifyAll, outcome_bind_ok done, outcome_bind_ok rested]
        rfl
      · intro entry member
        rcases List.mem_cons.mp member with first | later
        · rw [first]
          exact ⟨before, middle, done⟩
        · exact told entry later

/-- An identification fails when the candidates cannot be told. Otherwise it adds the examined
classes in order, each in the role that it was told to have.
-/
theorem identify_collects (host : Host) (program : Program) (catalog : Catalog)
    (skipTests : Bool) (before : Session)
    : (¬ catalog.PatternsAreTexts
        ∧ ∃ fault,
            (outcome (identify host program catalog skipTests) before).1 = .error fault)
      ∨ ∃ chosen classified found after,
          candidates catalog skipTests program.files = .ok chosen
          ∧ outcome (identify host program catalog skipTests) before = (.ok found, after)
          ∧ classified.map Prod.fst = examined catalog skipTests program.files
          ∧ (∀ entry ∈ classified, Classified host program catalog entry)
          ∧ Collects catalog classified (blank program.files.length chosen) found := by
  unfold identify
  cases listed : candidates catalog skipTests program.files with
  | error fault =>
      refine Or.inl ⟨?_, fault, congrArg Prod.fst (outcome_bind_error (outcome_lift _ _))⟩
      intro texts
      obtain ⟨chosen, told, -⟩ := candidates_examined texts skipTests program.files
      rw [told] at listed
      cases listed
  | ok chosen =>
      obtain ⟨classified, middle, done, same, told⟩ :=
        classifyAll_classified host program catalog chosen.classes before
      obtain ⟨found, after, collected, collects⟩ :=
        collect_collects host catalog classified (blank program.files.length chosen) middle
      refine Or.inr ⟨chosen, classified, found, after, rfl, ?_, ?_, told, collects⟩
      · rw [outcome_bind_ok (outcome_lift _ _), outcome_bind_ok done]
        exact collected
      · rw [same, (candidates_partition listed).1]

-----------------------------------------------------------------------------------------
-- What follows for an identification
-----------------------------------------------------------------------------------------

section Collected

variable {catalog : Catalog} {classes : List (ClassDecl × Role)} {found final : Identification}

theorem Collects.roles (collects : Collects catalog classes found final)
    : final.roles
      = classes.foldl (fun roles classified => putRole roles classified.1.name classified.2)
          found.roles := by
  induction collects with
  | done => rfl
  | told _ ih => exact ih
  | denied _ ih => exact ih

theorem Collects.records (collects : Collects catalog classes found final) {record : Record}
    (member : record ∈ final.records)
    : record ∈ found.records
      ∨ ∃ classified ∈ classes, record ∈ recordsAs catalog classified.1 classified.2 := by
  induction collects with
  | done => exact Or.inl member
  | @told classified rest found final _ ih =>
      rcases ih member with earlier | ⟨other, later, given⟩
      · rcases List.mem_append.mp earlier with before | added
        · exact Or.inl before
        · exact Or.inr ⟨classified, List.mem_cons_self, added⟩
      · exact Or.inr ⟨other, List.mem_cons_of_mem _ later, given⟩
  | denied _ ih =>
      rcases ih member with before | ⟨other, later, given⟩
      · exact Or.inl before
      · exact Or.inr ⟨other, List.mem_cons_of_mem _ later, given⟩

/-- A record of a class in some role is that of a method of the class, of a kind of the role that
lists the name of the method.
-/
theorem of_mem_recordsAs {decl : ClassDecl} {role : Role} {record : Record}
    (member : record ∈ recordsAs catalog decl role)
    : ∃ method ∈ decl.methods,
        ∃ kind,
          Lists catalog role method.name kind
          ∧ record
            = {
                methodName := method.name
                kind
                className := decl.name
                filePath := decl.filePath
                line := method.line
                hasImplementation := method.hasImplementation
                signature := method.signature
                method := some method } := by
  obtain ⟨method, declared, given⟩ := List.mem_filterMap.mp member
  obtain ⟨kind, first, same⟩ := Option.map_eq_some_iff.mp given
  rw [find?_kindsOf] at first
  exact ⟨method, declared, kind, by simpa using List.find?_some first, same.symm⟩

/-- Every record of an identification is one of an examined class. -/
theorem mem_records_of_identify {host : Host} {program : Program} {skipTests : Bool}
    {before after : Session}
    (done : outcome (identify host program catalog skipTests) before = (.ok found, after))
    {record : Record} (member : record ∈ found.records)
    : ∃ decl ∈ examined catalog skipTests program.files,
        ∃ role, record ∈ recordsAs catalog decl role := by
  rcases identify_collects host program catalog skipTests before with
    ⟨-, fault, failed⟩ | ⟨chosen, classified, given, _, -, told, same, -, collects⟩
  · rw [done] at failed
    cases failed
  · rw [done] at told
    cases told
    rcases collects.records member with earlier | ⟨⟨decl, role⟩, listed, here⟩
    · cases earlier
    · exact ⟨decl, same ▸ List.mem_map_of_mem listed, role, here⟩

/-- A class adds at most one record for each of its methods. -/
theorem length_recordsAs_le (catalog : Catalog) (decl : ClassDecl) (role : Role)
    : (recordsAs catalog decl role).length ≤ decl.methods.length :=
  List.length_filterMap_le _ _

/-- The counts of an identification fit together. -/
structure Tallied (found : Identification) : Prop where
  roles : found.abilityClasses + found.componentClasses ≤ found.totalClasses
  records : found.records.length ≤ found.totalMethods

theorem Tallied.addClass (tallied : Tallied found) (decl : ClassDecl) (role : Role)
    : Tallied (found.addClass decl role) := by
  refine ⟨?_, tallied.records⟩
  have roles := tallied.roles
  -- A class has one role, so it counts for one of the two sums at most.
  cases role <;> simp [Identification.addClass] <;> omega

theorem Tallied.addRecords (tallied : Tallied found) (classified : ClassDecl × Role)
    : Tallied (addRecords catalog found classified) := by
  refine ⟨(tallied.addClass classified.1 classified.2).roles, ?_⟩
  have added := length_recordsAs_le catalog classified.1 classified.2
  have records := tallied.records
  simp only [Identification.addRecords, List.length_append]
  omega

theorem Collects.tallied (collects : Collects catalog classes found final)
    (tallied : Tallied found)
    : Tallied final := by
  induction collects with
  | done => exact tallied
  | told _ ih => exact ih (tallied.addRecords _)
  | denied _ ih => exact ih (tallied.addClass _ _)

/-- Every class is counted once, whatever is denied. -/
theorem Collects.totalClasses (collects : Collects catalog classes found final)
    : final.totalClasses = found.totalClasses + classes.length := by
  induction collects with
  | done => rfl
  | told _ ih =>
      rw [ih, List.length_cons]
      exact Nat.add_right_comm _ 1 _
  | denied _ ih =>
      rw [ih, List.length_cons]
      exact Nat.add_right_comm _ 1 _

theorem Collects.skippedClasses (collects : Collects catalog classes found final)
    : final.skippedClasses = found.skippedClasses := by
  induction collects with
  | done => rfl
  | told _ ih => exact ih
  | denied _ ih => exact ih

end Collected

end ArkLifecycle.Identification
