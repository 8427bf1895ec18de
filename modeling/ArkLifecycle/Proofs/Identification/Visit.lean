import ArkLifecycle.Identification
import ArkLifecycle.Proofs.Classification.Role

/-! What became of every class in an identification.

Each class is visited twice, once to tell its role and once to collect its records. A denied
question takes away the role or the records of the class it was put for, and nothing else.
-/

namespace ArkLifecycle.Identification

open Activity Classification

-----------------------------------------------------------------------------------------
-- True records
-----------------------------------------------------------------------------------------

/-- (recordIn catalog decl kinds method) is the record of a method when nobody denies a question.
-/
def recordIn (catalog : Catalog) (decl : ClassDecl) (kinds : List Kind) (method : Method)
    : Option Record :=
  (kinds.find? fun kind => catalog.recognizes kind method.name).map fun kind =>
    { methodName := method.name
      kind
      className := decl.name
      filePath := decl.filePath
      line := method.line
      hasImplementation := method.hasImplementation
      signature := method.signature
      method := some method }

/-- (recordsAs catalog decl role) are the records of a class when it has the given role. -/
def recordsAs (catalog : Catalog) (decl : ClassDecl) (role : Role) : List Record :=
  decl.methods.filterMap (recordIn catalog decl (kindsOf catalog role))

/-- (recordsIn program catalog decl) are the records of a class when nobody denies a question. -/
def recordsIn (program : Program) (catalog : Catalog) (decl : ClassDecl) : List Record :=
  recordsAs catalog decl (roleIn program catalog decl)

/-- (examined catalog skipTests files) are the classes that are examined: those of the files that
are not skipped, without the generated ones.
-/
def examined (catalog : Catalog) (skipTests : Bool) (files : List SourceFile)
    : List ClassDecl :=
  (Program.classesOf (files.filter (!isSkipped skipTests ·))).filter (!isGenerated catalog ·)

/-- A class without a role has no records. -/
theorem recordsAs_none (catalog : Catalog) (decl : ClassDecl)
    : recordsAs catalog decl .none = [] := by
  simp [recordsAs, kindsOf, recordIn]

/-- The candidates of an identification are the examined classes.
Witness: induction over the classes of the files that are not skipped.
-/
theorem candidates_examined {catalog : Catalog} (texts : catalog.PatternsAreTexts)
    (skipTests : Bool) (files : List SourceFile)
    : ∃ found,
        candidates catalog skipTests files = .ok found
        ∧ found.classes = examined catalog skipTests files := by
  have split (classes : List ClassDecl)
      : ∃ skipped,
          splitGenerated catalog classes
            = .ok (classes.filter (!isGenerated catalog ·), skipped) := by
    induction classes with
    | nil => exact ⟨0, rfl⟩
    | cons decl rest ih =>
        obtain ⟨skipped, done⟩ := ih
        simp only [splitGenerated, isSynthetic_texts texts, done]
        cases generated : isGenerated catalog decl with
        | true => exact ⟨skipped + 1, by simp [generated]; rfl⟩
        | false => exact ⟨skipped, by simp [generated]; rfl⟩
  obtain ⟨skipped, done⟩ :=
    split (Program.classesOf (files.filter (!isSkipped skipTests ·)))
  simp only [candidates, done]
  exact ⟨_, rfl, rfl⟩

/-- Where it can be told whether a class was generated, that is so exactly if one of the patterns
occurs in its name.
-/
theorem isGenerated_of_isSynthetic {catalog : Catalog} {decl : ClassDecl} {synthetic : Bool}
    (told : isSynthetic catalog decl = .ok synthetic)
    : isGenerated catalog decl = synthetic := by
  unfold isSynthetic at told
  unfold isGenerated
  generalize catalog.syntheticPatterns = patterns at told ⊢
  induction patterns with
  | nil => simpa [occurs] using told
  | cons pattern rest ih =>
      cases pattern with
      | scalar value =>
          cases value with
          | text written =>
              cases found : Text.contains decl.name written with
              | true => simpa [occurs, found] using told
              | false => simpa [found] using ih (by simpa [occurs, found] using told)
          | _ => simp [occurs] at told
      | _ => simp [occurs] at told

/-- Every class is kept or counted as generated. -/
theorem splitGenerated_partition {catalog : Catalog} {classes kept : List ClassDecl}
    {skipped : Nat} (split : splitGenerated catalog classes = .ok (kept, skipped))
    : kept = classes.filter (!isGenerated catalog ·) ∧ kept.length + skipped = classes.length := by
  induction classes generalizing kept skipped with
  | nil =>
      cases split
      exact ⟨rfl, rfl⟩
  | cons decl rest ih =>
      unfold splitGenerated at split
      cases told : isSynthetic catalog decl with
      | error fault =>
          rw [told] at split
          cases split
      | ok synthetic =>
          cases others : splitGenerated catalog rest with
          | error fault =>
              rw [told, others] at split
              cases split
          | ok more =>
              obtain ⟨same, sum⟩ := ih others
              have generated := isGenerated_of_isSynthetic told
              rw [told, others] at split
              cases synthetic with
              | true =>
                  cases split
                  exact ⟨by simp [generated, same], by rw [List.length_cons]; omega⟩
              | false =>
                  cases split
                  exact ⟨by simp [generated, same], by simp only [List.length_cons]; omega⟩

/-- The candidates are the examined classes, and the others of the files that are not skipped are
counted.
-/
theorem candidates_partition {catalog : Catalog} {skipTests : Bool} {files : List SourceFile}
    {chosen : Candidates} (listed : candidates catalog skipTests files = .ok chosen)
    : chosen.classes = examined catalog skipTests files
      ∧ chosen.classes.length + chosen.skippedClasses
        = (Program.classesOf (files.filter (!isSkipped skipTests ·))).length := by
  cases split : splitGenerated catalog
    (Program.classesOf (files.filter (!isSkipped skipTests ·))) with
  | error fault =>
      simp only [candidates, split] at listed
      cases listed
  | ok given =>
      simp only [candidates, split] at listed
      cases listed
      exact splitGenerated_partition split

theorem examined_subset (catalog : Catalog) (skipTests : Bool) (files : List SourceFile)
    : examined catalog skipTests files ⊆ Program.classesOf files := by
  intro decl member
  obtain ⟨file, kept, here⟩ := List.mem_flatMap.mp (List.mem_filter.mp member).1
  exact List.mem_flatMap.mpr ⟨file, (List.mem_filter.mp kept).1, here⟩

-----------------------------------------------------------------------------------------
-- Telling the records of a class
-----------------------------------------------------------------------------------------

/-- The record of a method is told truthfully or not at all. -/
theorem recordFor_answers {host : Host} {program : Program} (catalog : Catalog)
    {decl : ClassDecl} (kinds : List Kind) {method : Method} (member : method ∈ decl.methods)
    : Answers host (Concerns program catalog decl) (recordFor host catalog decl kinds method)
        (.ok (recordIn catalog decl kinds method)) := by
  unfold recordFor recordIn
  cases kinds.find? fun kind => catalog.recognizes kind method.name with
  | none => exact .pure none
  | some kind => exact (Answers.bodyOf (.body member)).bind_ok (.pure _)

/-- The records of some methods of a class are told truthfully or not at all.
Witness: induction over the methods; one denied body gives up the records of all of them.
-/
theorem recordsFor_answers {host : Host} {program : Program} (catalog : Catalog)
    {decl : ClassDecl} (kinds : List Kind) (methods : List Method)
    (inside : ∀ method ∈ methods, method ∈ decl.methods)
    : Answers host (Concerns program catalog decl) (recordsFor host catalog decl kinds methods)
        (.ok (methods.filterMap (recordIn catalog decl kinds))) := by
  induction methods with
  | nil => exact .pure []
  | cons method rest ih =>
      refine (recordFor_answers catalog kinds (inside method (by simp))).bind_ok ?_
      refine (ih fun method member => inside method (List.mem_cons_of_mem _ member)).bind_ok ?_
      rw [List.filterMap_cons]
      cases recordIn catalog decl kinds method with
      | none => exact .pure _
      | some record => exact .pure _

/-- The records of a class in some role are told truthfully or not at all. -/
theorem classRecords_answers (host : Host) (program : Program) (catalog : Catalog)
    (decl : ClassDecl) (role : Role)
    : Answers host (Concerns program catalog decl) (classRecords host catalog decl role)
        (.ok (recordsAs catalog decl role, decl.methods.length)) := by
  refine (Answers.methodsOf .methods).bind_ok ?_
  refine (recordsFor_answers catalog _ decl.methods fun _ member => member).bind_ok ?_
  exact .pure _

-----------------------------------------------------------------------------------------
-- Visits of classes
-----------------------------------------------------------------------------------------

/-- What became of a class: the role it got, the records it gave, and the questions that were put
for it.
-/
structure ClassVisit where
  decl : ClassDecl
  role : Role
  records : List Record
  questions : List Question

/-- The questions of the visit concern its class and were put between two states of the log. The
role is the true one, or none because one of these questions was denied.
-/
structure ClassVisit.RoleTold (host : Host) (program : Program) (catalog : Catalog)
    (start finish : List Query) (visit : ClassVisit)
    : Prop where
  logged
    : ∀ question ∈ visit.questions,
        start <:+ question.history ∧ question.query :: question.history <:+ finish
  concerned : ∀ question ∈ visit.questions, Concerns program catalog visit.decl question.query
  role
    : visit.role = roleIn program catalog visit.decl
      ∨ visit.role = .none ∧ ∃ question ∈ visit.questions, host.denies question

/-- The role is told, and the records are all true ones of the class, or there is none because one
of the questions for it was denied.
-/
structure ClassVisit.Isolated (host : Host) (program : Program) (catalog : Catalog)
    (start finish : List Query) (visit : ClassVisit)
    : Prop extends visit.RoleTold host program catalog start finish where
  records
    : visit.records = recordsIn program catalog visit.decl
      ∨ visit.records = [] ∧ ∃ question ∈ visit.questions, host.denies question

/-- A visit between two states of the log is one between an earlier and a later state. -/
theorem ClassVisit.RoleTold.widen {host : Host} {program : Program} {catalog : Catalog}
    {start finish earlier later : List Query} {visit : ClassVisit}
    (told : visit.RoleTold host program catalog start finish)
    (before : earlier <:+ start) (after : finish <:+ later)
    : visit.RoleTold host program catalog earlier later := by
  refine ⟨?_, told.concerned, told.role⟩
  intro question member
  obtain ⟨begun, put⟩ := told.logged question member
  exact ⟨before.trans begun, put.trans after⟩

/-- Questions that were put from one session to another stand in the log between them. -/
theorem questionsOn_logged {before after : Session} {asked : List Query} {question : Question}
    (step : Asked before after asked) (member : question ∈ questionsOn before.queries asked)
    : before.queries <:+ question.history
      ∧ question.query :: question.history <:+ after.queries
      ∧ question.query ∈ asked := by
  rw [step.queries]
  exact mem_questionsOn member

/-- Telling the roles of classes visits each of them in order, and each gets its role or none.
Witness: induction over the classes; the log of a class lies inside of the log of all.
-/
theorem classifyAll_told {catalog : Catalog} (texts : catalog.PatternsAreTexts) (host : Host)
    (program : Program) (classes : List ClassDecl) (before : Session)
    : ∃ (visits : List ClassVisit) (after : Session),
        outcome (classifyAll host program catalog classes) before
          = (.ok (visits.map fun visit => (visit.decl, visit.role)), after)
        ∧ Extends before after
        ∧ visits.map ClassVisit.decl = classes
        ∧ ∀ visit ∈ visits,
            visit.RoleTold host program catalog before.queries after.queries := by
  induction classes generalizing before with
  | nil => exact ⟨[], before, rfl, .refl before, rfl, by simp⟩
  | cons decl rest ih =>
      obtain ⟨role, middle, asked, done, step, concerned, told⟩ :=
        classify_true_or_none texts host program decl before
      obtain ⟨visits, after, more, extended, same, later⟩ := ih middle
      refine ⟨⟨decl, role, [], questionsOn before.queries asked⟩ :: visits, after, ?_,
        step.extends.trans extended, by simp [same], ?_⟩
      · simp only [classifyAll, outcome_bind_ok done, outcome_bind_ok more, outcome_pure,
          List.map_cons]
      · intro visit member
        rcases List.mem_cons.mp member with first | member
        · subst first
          refine ⟨?_, ?_, told⟩
          · intro question put
            obtain ⟨begun, logged, -⟩ := questionsOn_logged step put
            exact ⟨begun, logged.trans extended.queries⟩
          · intro question put
            exact concerned _ (questionsOn_logged step put).2.2
        · exact (later visit member).widen step.extends.queries List.suffix_rfl

/-- One step of collecting: the class adds all records of its role, or none because a question that
concerns it was denied; the classes after it are collected in the session that this leaves.
-/
theorem collect_cons (host : Host) (program : Program) (catalog : Catalog) (decl : ClassDecl)
    (role : Role) (rest : List (ClassDecl × Role)) (found : Identification) (before : Session)
    : ∃ (records : List Record) (next : Identification) (middle : Session) (asked : List Query),
        outcome (collect host catalog found ((decl, role) :: rest)) before
          = outcome (collect host catalog next rest) middle
        ∧ next.records = found.records ++ records
        ∧ next.roles = putRole found.roles decl.name role
        ∧ Asked before middle asked
        ∧ (∀ query ∈ asked, Concerns program catalog decl query)
        ∧ (records = recordsAs catalog decl role
          ∨ records = []
            ∧ ∃ question ∈ questionsOn before.queries asked, host.denies question) := by
  obtain ⟨asked, step, concerned, told⟩ :=
    classRecords_answers host program catalog decl role before
  rcases done : outcome (classRecords host catalog decl role) before with ⟨result, middle⟩
  simp only [done] at step told
  have tried
      : outcome (attempt (classRecords host catalog decl role)) before
        = (.ok result, middle) := by
    rw [outcome_attempt, done]
  simp only [collect, outcome_bind_ok tried]
  rcases told with told | ⟨⟨fault, failed⟩, denied⟩
  · subst told
    exact ⟨_, _, middle, asked, rfl, rfl, rfl, step, concerned, Or.inl rfl⟩
  · subst failed
    exact ⟨[], _, middle, asked, rfl, by simp [addClass], rfl, step, concerned,
      Or.inr ⟨rfl, denied⟩⟩

/-- A class whose role is told and whose records then come all together or not at all is isolated.
Witness: a class whose role could not be told has no records in either case.
-/
theorem ClassVisit.RoleTold.isolated {host : Host} {program : Program} {catalog : Catalog}
    {start finish asked : List Query} {before middle : Session} {visit : ClassVisit}
    {records : List Record}
    (told : visit.RoleTold host program catalog start before.queries)
    (begun : start <:+ before.queries) (step : Asked before middle asked)
    (ended : middle.queries <:+ finish)
    (concerned : ∀ query ∈ asked, Concerns program catalog visit.decl query)
    (whole
      : records = recordsAs catalog visit.decl visit.role
        ∨ records = [] ∧ ∃ question ∈ questionsOn before.queries asked, host.denies question)
    : ClassVisit.Isolated host program catalog start finish
        { visit with
          records
          questions := questionsOn before.queries asked ++ visit.questions } := by
  refine ⟨⟨?_, ?_, ?_⟩, ?_⟩
  · intro question member
    rcases List.mem_append.mp member with put | put
    · obtain ⟨history, logged, -⟩ := questionsOn_logged step put
      exact ⟨begun.trans history, logged.trans ended⟩
    · obtain ⟨history, logged⟩ := told.logged question put
      exact ⟨history, logged.trans (step.extends.queries.trans ended)⟩
  · intro question member
    rcases List.mem_append.mp member with put | put
    · exact concerned _ (questionsOn_logged step put).2.2
    · exact told.concerned question put
  · refine told.role.imp_right (And.imp_right ?_)
    rintro ⟨question, put, denied⟩
    exact ⟨question, List.mem_append_right _ put, denied⟩
  · rcases whole with all | ⟨none, question, put, denied⟩
    · rcases told.role with role | ⟨role, question, put, denied⟩
      · exact Or.inl (by rw [all, role, recordsIn])
      · refine Or.inr ⟨?_, question, List.mem_append_right _ put, denied⟩
        rw [all, role, recordsAs_none]
    · exact Or.inr ⟨none, question, List.mem_append_left _ put, denied⟩

/-- Collecting the records of visited classes leaves every class isolated from the others.
Witness: induction over the visits, one step for each class.
-/
theorem collect_isolated (host : Host) (program : Program) (catalog : Catalog)
    (visits : List ClassVisit) (found : Identification) (start : List Query) (before : Session)
    (told : ∀ visit ∈ visits, visit.RoleTold host program catalog start before.queries)
    (begun : start <:+ before.queries)
    : ∃ (collected : List ClassVisit) (final : Identification) (after : Session),
        outcome
            (collect host catalog found (visits.map fun visit => (visit.decl, visit.role)))
            before
          = (.ok final, after)
        ∧ Extends before after
        ∧ collected.map ClassVisit.decl = visits.map ClassVisit.decl
        ∧ final.records = found.records ++ collected.flatMap ClassVisit.records
        ∧ final.roles
          = collected.foldl (fun roles visit => putRole roles visit.decl.name visit.role)
              found.roles
        ∧ ∀ visit ∈ collected, visit.Isolated host program catalog start after.queries := by
  induction visits generalizing found before with
  | nil => exact ⟨[], found, before, rfl, .refl before, rfl, by simp, rfl, by simp⟩
  | cons visit rest ih =>
      obtain ⟨records, next, middle, asked, moved, added, noted, step, concerned, whole⟩ :=
        collect_cons host program catalog visit.decl visit.role
          (rest.map fun visit => (visit.decl, visit.role)) found before
      have later : ∀ visit ∈ rest, visit.RoleTold host program catalog start middle.queries :=
        fun visit member =>
          (told visit (List.mem_cons_of_mem _ member)).widen List.suffix_rfl
            step.extends.queries
      obtain ⟨collected, final, after, done, extended, same, gathered, roles, others⟩ :=
        ih next middle later (begun.trans step.extends.queries)
      let here : ClassVisit :=
        { visit with records, questions := questionsOn before.queries asked ++ visit.questions }
      refine ⟨here :: collected, final, after, ?_, step.extends.trans extended, ?_, ?_, ?_, ?_⟩
      · rw [List.map_cons, moved, done]
      · simp [here, same]
      · simp [here, gathered, added]
      · simp [here, roles, noted]
      · intro other member
        rcases List.mem_cons.mp member with first | member
        · subst first
          exact (told visit (by simp)).isolated begun step extended.queries concerned whole
        · exact others other member

/-- An identification comes from visits of the examined classes, in order, that are all isolated
between two states of the log.
-/
structure FoundBy (host : Host) (program : Program) (catalog : Catalog) (skipTests : Bool)
    (start finish : List Query) (visits : List ClassVisit) (found : Identification)
    : Prop where
  classes : visits.map ClassVisit.decl = examined catalog skipTests program.files
  records : found.records = visits.flatMap ClassVisit.records
  roles
    : found.roles = visits.foldl (fun roles visit => putRole roles visit.decl.name visit.role) []
  isolated : ∀ visit ∈ visits, visit.Isolated host program catalog start finish

/-- Visits between two states of the log are visits between an earlier and a later state. -/
theorem FoundBy.widen {host : Host} {program : Program} {catalog : Catalog} {skipTests : Bool}
    {start finish earlier later : List Query} {visits : List ClassVisit}
    {found : Identification}
    (visited : FoundBy host program catalog skipTests start finish visits found)
    (before : earlier <:+ start) (after : finish <:+ later)
    : FoundBy host program catalog skipTests earlier later visits found := by
  refine ⟨visited.classes, visited.records, visited.roles, ?_⟩
  intro visit member
  obtain ⟨told, records⟩ := visited.isolated visit member
  exact ⟨told.widen before after, records⟩

/-- An obliging host is told the true records of the examined classes, in order.
Witness: no question is denied, so every class gives all of its records.
-/
theorem FoundBy.records_obliged {host : Host} {program : Program} {catalog : Catalog}
    {skipTests : Bool} {start finish : List Query} {visits : List ClassVisit}
    {found : Identification}
    (visited : FoundBy host program catalog skipTests start finish visits found)
    (obliging : host.Obliging)
    : found.records
      = (examined catalog skipTests program.files).flatMap (recordsIn program catalog) := by
  rw [visited.records, ← visited.classes, List.flatMap_map, List.flatMap_def, List.flatMap_def]
  refine congrArg List.flatten (List.map_congr_left fun visit member => ?_)
  rcases (visited.isolated visit member).records with all | ⟨-, question, -, denied⟩
  · exact all
  · exact absurd denied (obliging.not_denies question)

/-- An identification visits the examined classes in order, and each of them is isolated from the
others.
-/
theorem identify_isolated {catalog : Catalog} (texts : catalog.PatternsAreTexts) (host : Host)
    (program : Program) (skipTests : Bool) (before : Session)
    : ∃ visits found after,
        outcome (identify host program catalog skipTests) before = (.ok found, after)
        ∧ Extends before after
        ∧ FoundBy host program catalog skipTests before.queries after.queries visits found := by
  obtain ⟨chosen, listed, classes⟩ := candidates_examined texts skipTests program.files
  obtain ⟨visits, middle, classified, begun, same, told⟩ :=
    classifyAll_told texts host program chosen.classes before
  let empty : Identification :=
    { records := []
      roles := []
      totalFiles := program.files.length
      totalClasses := 0
      totalMethods := 0
      abilityClasses := 0
      componentClasses := 0
      skippedFiles := chosen.skippedFiles
      skippedClasses := chosen.skippedClasses }
  obtain ⟨collected, found, after, done, extended, decls, records, roles, isolated⟩ :=
    collect_isolated host program catalog visits empty before.queries middle told begun.queries
  refine ⟨collected, found, after, ?_, begun.trans extended, ?_, records, roles, isolated⟩
  · rw [identify, listed, outcome_bind_ok (outcome_lift _ _), outcome_bind_ok classified]
    exact done
  · rw [decls, same, classes]

end ArkLifecycle.Identification
