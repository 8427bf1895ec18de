import ArkLifecycle.Proofs.Classification.Role
import ArkLifecycle.Proofs.Program.Index
import ArkLifecycle.Proofs.Text.Search
import Mathlib.Data.List.Nodup
import Mathlib.Logic.Relation

/-! Which classes the walk up the superclasses reaches.

Superclass links may lead in circles, so the walk stops at a name that it has met before. A class
that the walk arrives at is the first one of its name, and so nothing is lost when it is met again.
The class at which the walk begins need not be the first one of its name: then the walk also stops
at the class that is, although it was never there.
-/

namespace ArkLifecycle

open Activity

-----------------------------------------------------------------------------------------
-- Classes above a class
-----------------------------------------------------------------------------------------

namespace Program

/-- (Above program decl ancestor) holds when `ancestor` is reached from `decl` by any number of
steps to the superclass, none included.
-/
def Above (program : Program) : ClassDecl → ClassDecl → Prop :=
  Relation.ReflTransGen fun decl parent => program.superclass? decl = some parent

/-- (AboveApart program name decl ancestor) holds when `ancestor` is reached from `decl` by such
steps, none of which arrives at a class of the given name.
-/
def AboveApart (program : Program) (name : Text) : ClassDecl → ClassDecl → Prop :=
  Relation.ReflTransGen fun decl parent =>
    program.superclass? decl = some parent ∧ parent.name ≠ name

/-- The index of classes agrees with a search through the files. -/
def Indexed (program : Program) : Prop :=
  ∀ name, program.class? name = program.classes.find? fun decl => decl.name == name

theorem ofFiles_indexed (files : List SourceFile) : (ofFiles files).Indexed :=
  class?_ofFiles files

variable {program : Program}

/-- A superclass is a class of the program, and the one that its own name stands for. -/
theorem Indexed.superclass (indexed : program.Indexed) {decl parent : ClassDecl}
    (found : program.superclass? decl = some parent)
    : parent ∈ program.classes ∧ program.class? parent.name = some parent := by
  unfold superclass? at found
  split at found
  · cases found
  · have searched := indexed decl.superclass
    rw [found] at searched
    have named : parent.name = decl.superclass := by
      simpa using List.find?_some searched.symm
    exact ⟨List.mem_of_find?_eq_some searched.symm, named ▸ found⟩

/-- Two superclasses of one name are the same class. -/
theorem Indexed.superclass_unique (indexed : program.Indexed) {decl other first second : ClassDecl}
    (left : program.superclass? decl = some first)
    (right : program.superclass? other = some second)
    (named : first.name = second.name)
    : first = second := by
  have same := (indexed.superclass left).2
  rw [named, (indexed.superclass right).2] at same
  exact (Option.some.inj same).symm

/-- What the walk reaches is above the class, and none of it has a name that was visited. -/
theorem aboveApart_of_mem_ancestorsFrom {visited : List Text} {fuel : Nat}
    {decl ancestor : ClassDecl} {name : Text} (taken : name ∈ visited)
    (reached : ancestor ∈ program.ancestorsFrom visited fuel decl)
    : program.AboveApart name decl ancestor := by
  induction fuel generalizing visited decl with
  | zero => cases reached
  | succ fuel ih =>
      unfold ancestorsFrom at reached
      split at reached
      · cases reached
      · next parent found =>
          split at reached
          · cases reached
          · next fresh =>
              have apart : parent.name ≠ name := by
                rintro rfl
                exact fresh (by simpa using taken)
              have step : program.AboveApart name decl parent := .single ⟨found, apart⟩
              rcases List.mem_cons.mp reached with here | later
              · exact here ▸ step
              · exact step.trans (ih (List.mem_cons_of_mem _ taken) later)

/-- The names that a walk has met are distinct names of classes, and the walk can take as many
further steps as there are classes whose names may still be new.
-/
structure Walked (program : Program) (fuel : Nat) (names : List Text) : Prop where
  distinct : names.Nodup
  known : names ⊆ program.classes.map ClassDecl.name
  budget : program.classes.length ≤ fuel + names.length

theorem Walked.start (program : Program) : Walked program program.classes.length [] where
  distinct := List.nodup_nil
  known := List.nil_subset _
  budget := Nat.le_refl _

/-- A step to a superclass of a new name, which is not that of the start either, spends one unit of
the budget.
-/
theorem Walked.step (indexed : program.Indexed) {start : Text} {fuel : Nat} {names : List Text}
    (walked : program.Walked (fuel + 1) names) {decl parent : ClassDecl}
    (found : program.superclass? decl = some parent) (fresh : parent.name ∉ names ++ [start])
    : program.Walked fuel (parent.name :: names) where
  distinct := by
    have unmet : parent.name ∉ names := by
      intro met
      exact fresh (List.mem_append_left _ met)
    exact List.nodup_cons.mpr ⟨unmet, walked.distinct⟩
  known := List.cons_subset.mpr
    ⟨List.mem_map_of_mem (indexed.superclass found).1, walked.known⟩
  budget := by
    have budget := walked.budget
    simp only [List.length_cons]
    omega

/-- A walk that can take no further step has met the names of all superclasses.
Witness: another name would be one more than there are classes.
-/
theorem Walked.exhausted (indexed : program.Indexed) {names : List Text}
    (walked : program.Walked 0 names) {decl parent : ClassDecl}
    (found : program.superclass? decl = some parent)
    : parent.name ∈ names := by
  by_contra fresh
  have listed : parent.name ∈ program.classes.map ClassDecl.name :=
    List.mem_map_of_mem (indexed.superclass found).1
  have more := (List.nodup_cons.mpr ⟨fresh, walked.distinct⟩).length_le_of_subset
    (List.cons_subset.mpr ⟨listed, walked.known⟩)
  have budget := walked.budget
  simp only [List.length_cons, List.length_map] at more
  omega

/-- The walk leaves out no superclass of a class it reaches, unless that has a name met before.
Witness: induction on the fuel; each class that the walk goes on from is the only superclass of its
name.
-/
theorem superclass_mem_ancestorsFrom (indexed : program.Indexed) (start : Text)
    {names : List Text} {fuel : Nat} (walked : program.Walked fuel names)
    {decl reached parent : ClassDecl}
    (member : reached ∈ decl :: program.ancestorsFrom (names ++ [start]) fuel decl)
    (found : program.superclass? reached = some parent)
    : parent.name ∈ names ++ [start]
      ∨ parent ∈ program.ancestorsFrom (names ++ [start]) fuel decl := by
  induction fuel generalizing names decl with
  | zero => exact Or.inl (List.mem_append_left _ (walked.exhausted indexed found))
  | succ fuel ih =>
      unfold ancestorsFrom at member ⊢
      cases above : program.superclass? decl with
      | none =>
          rw [above] at member
          rw [List.mem_singleton.mp member, above] at found
          cases found
      | some next =>
          rw [above] at member
          dsimp only at member ⊢
          split at member
          · next met =>
              rw [List.mem_singleton.mp member, above] at found
              cases found
              exact Or.inl (by simpa using met)
          · next fresh =>
              rw [if_neg fresh]
              rcases List.mem_cons.mp member with here | later
              · rw [here, above] at found
                cases found
                exact Or.inr List.mem_cons_self
              · have unmet : next.name ∉ names ++ [start] := by simpa using fresh
                rcases ih (walked.step indexed above unmet) later with named | reached
                · rcases List.mem_cons.mp named with same | old
                  -- The links lead back to the class that the walk has just gone on to.
                  · exact Or.inr (indexed.superclass_unique found above same ▸ List.mem_cons_self)
                  · exact Or.inl old
                · exact Or.inr (List.mem_cons_of_mem _ reached)

/-- The walk from a class reaches exactly what is above it by steps that do not arrive at a class
of its name.
Witness: the reached classes are closed under such steps.
-/
theorem mem_ancestors_iff (indexed : program.Indexed) (decl ancestor : ClassDecl)
    : ancestor ∈ decl :: program.ancestors decl
      ↔ program.AboveApart decl.name decl ancestor := by
  constructor
  · intro member
    rcases List.mem_cons.mp member with here | reached
    · exact here ▸ .refl
    · exact aboveApart_of_mem_ancestorsFrom (List.mem_singleton_self _) reached
  · intro above
    induction above with
    | refl => exact List.mem_cons_self
    | tail _ step ih =>
        rcases superclass_mem_ancestorsFrom indexed decl.name (Walked.start program) ih step.1
          with named | reached
        · exact absurd (List.mem_singleton.mp named) step.2
        · exact List.mem_cons_of_mem _ reached

/-- The class is alone in its name among those above it. -/
def Alone (program : Program) (decl : ClassDecl) : Prop :=
  ∀ namesake, program.Above decl namesake → namesake.name = decl.name → namesake = decl

/-- The first class of a name is alone in it, because a superclass of that name is itself. -/
theorem Indexed.alone (indexed : program.Indexed) {decl : ClassDecl}
    (first : program.class? decl.name = some decl)
    : program.Alone decl := by
  intro namesake above named
  rcases Relation.ReflTransGen.cases_tail above with same | ⟨_, -, step⟩
  · exact same
  · have own := (indexed.superclass step).2
    rw [named, first] at own
    exact (Option.some.inj own).symm

/-- For a class that is alone in its name nothing above it is hidden.
Witness: steps that arrive at a class of its name arrive at the class itself, and may be left out.
-/
theorem Above.apart {decl ancestor : ClassDecl} (alone : program.Alone decl)
    (above : program.Above decl ancestor)
    : program.AboveApart decl.name decl ancestor := by
  induction above with
  | refl => exact .refl
  | @tail middle parent below step ih =>
      by_cases named : parent.name = decl.name
      · have same : parent = decl := alone parent (below.tail step) named
        exact same ▸ .refl
      · exact ih.tail ⟨step, named⟩

theorem AboveApart.above {name : Text} {decl ancestor : ClassDecl}
    (apart : program.AboveApart name decl ancestor)
    : program.Above decl ancestor :=
  Relation.ReflTransGen.mono (fun _ _ step => step.1) _ _ apart

end Program

namespace Classification

-----------------------------------------------------------------------------------------
-- What tells a role
-----------------------------------------------------------------------------------------

/-- Every pattern of generated classes is a text that does not occur in the name of the class. -/
def Handwritten (catalog : Catalog) (decl : ClassDecl) : Prop :=
  ∀ pattern ∈ catalog.syntheticPatterns,
    ∃ written, pattern = .text written ∧ ¬ written.Occurs decl.name

/-- The superclass that the class names is an ability base. -/
def NamesAbility (catalog : Catalog) (decl : ClassDecl) : Prop :=
  .text decl.superclass ∈ catalog.abilityBases

/-- The superclass that the class names is a component base, or the class is decorated with a
marker of components or entries.
-/
def LooksShown (catalog : Catalog) (decl : ClassDecl) : Prop :=
  .text decl.superclass ∈ catalog.componentBases
  ∨ ∃ marker ∈ catalog.componentMarkers ++ catalog.entryMarkers,
      ∃ decorator ∈ decl.decorators, marker = .text decorator

/-- It can be told that a class was not generated exactly if no pattern speaks against it.
Witness: induction over the patterns.
-/
theorem isSynthetic_false_iff (catalog : Catalog) (decl : ClassDecl)
    : isSynthetic catalog decl = .ok false ↔ Handwritten catalog decl := by
  unfold isSynthetic Handwritten
  induction catalog.syntheticPatterns with
  | nil => simp [occurs]
  | cons pattern rest ih =>
      rw [List.forall_mem_cons, ← ih]
      cases pattern with
      | scalar value =>
          cases value with
          | text written =>
              cases found : Text.contains decl.name written <;>
                simp [occurs, found, ← Text.contains_iff]
          | _ => simp [occurs]
      | _ => simp [occurs]

instance (catalog : Catalog) (decl : ClassDecl) : Decidable (Handwritten catalog decl) :=
  decidable_of_iff _ (isSynthetic_false_iff catalog decl)

@[simp]
theorem extendsOne_iff (bases : List Scalar) (decl : ClassDecl)
    : extendsOne bases decl = true ↔ .text decl.superclass ∈ bases := by
  simp [extendsOne]

theorem carries_iff (decl : ClassDecl) (marker : Json)
    : decl.carries marker = true ↔ ∃ decorator ∈ decl.decorators, marker = .text decorator := by
  have isText (decorator : Text) : marker.isText decorator = true ↔ marker = .text decorator := by
    unfold Json.isText
    split <;> simp_all
  simp [ClassDecl.carries, isText]

theorem isShown_iff (catalog : Catalog) (decl : ClassDecl)
    : isShown catalog decl = true ↔ LooksShown catalog decl := by
  simp only [isShown, Bool.or_eq_true, extendsOne_iff, List.any_eq_true, carries_iff]
  rfl

/-- A class descends from an ability base exactly if that is told of a class above it which is
reached without arriving at a class of its own name.
-/
theorem descendsFrom_iff {program : Program} (indexed : program.Indexed) (catalog : Catalog)
    (decl : ClassDecl)
    : descendsFrom catalog.abilityBases program decl = true
      ↔ ∃ ancestor,
          program.AboveApart decl.name decl ancestor ∧ NamesAbility catalog ancestor := by
  simp only [descendsFrom, List.any_eq_true, program.mem_ancestors_iff indexed, extendsOne_iff,
    NamesAbility]

/-- A class that is alone in its name descends from an ability base exactly if that is told of any
class above it.
-/
theorem descendsFrom_iff_above {program : Program} (indexed : program.Indexed)
    (catalog : Catalog) {decl : ClassDecl} (alone : program.Alone decl)
    : descendsFrom catalog.abilityBases program decl = true
      ↔ ∃ ancestor, program.Above decl ancestor ∧ NamesAbility catalog ancestor := by
  rw [descendsFrom_iff indexed]
  constructor
  · rintro ⟨ancestor, apart, named⟩
    exact ⟨ancestor, apart.above, named⟩
  · rintro ⟨ancestor, above, named⟩
    exact ⟨ancestor, above.apart alone, named⟩

-----------------------------------------------------------------------------------------
-- Roles
-----------------------------------------------------------------------------------------

/-- For an obliging host a class gets the role of an ordinary class unless something in the catalog
speaks against that, and then none.
-/
theorem classify_obliged {host : Host} (obliging : host.Obliging) (program : Program)
    (catalog : Catalog) (decl : ClassDecl) (before : Session)
    : ∃ role after,
        outcome (classify host program catalog decl) before = (.ok role, after)
        ∧ (Handwritten catalog decl → role = ordinaryRole program catalog decl)
        ∧ (¬ Handwritten catalog decl → role = .none) := by
  obtain ⟨after, -, told, -⟩ :=
    (roleOf_tells host program catalog decl).obliged obliging before
  have tried := outcome_attempt (roleOf host program catalog decl) before
  rw [told] at tried
  rw [classify, outcome_bind_ok tried, ← isSynthetic_false_iff]
  rcases isSynthetic catalog decl with fault | _ | _
  · exact ⟨.none, after, rfl, by simp, by simp⟩
  · exact ⟨ordinaryRole program catalog decl, after, rfl, by simp, by simp⟩
  · exact ⟨.none, after, rfl, by simp, by simp⟩

/-- The first class of a name is an entry container exactly if it was not generated and some class
above it names an ability base, and a UI component exactly if it was not generated, there is no
such class above it, and it looks like one; otherwise it has no role. Superclasses may be missing
and may lead in circles.
Witness: the walk reaches all that is above the first class of a name.
-/
theorem classify_iff_above {host : Host} (obliging : host.Obliging) (files : List SourceFile)
    (catalog : Catalog) {decl : ClassDecl}
    (first : (Program.ofFiles files).class? decl.name = some decl) (before : Session)
    : ∃ role after,
        outcome (classify host (.ofFiles files) catalog decl) before = (.ok role, after)
        ∧ (role = .entryContainer
          ↔ Handwritten catalog decl
            ∧ ∃ ancestor,
                (Program.ofFiles files).Above decl ancestor ∧ NamesAbility catalog ancestor)
        ∧ (role = .uiComponent
          ↔ Handwritten catalog decl
            ∧ (¬ ∃ ancestor,
                (Program.ofFiles files).Above decl ancestor ∧ NamesAbility catalog ancestor)
            ∧ LooksShown catalog decl)
        ∧ (role = .none
          ↔ ¬ Handwritten catalog decl
            ∨ (¬ ∃ ancestor,
                (Program.ofFiles files).Above decl ancestor ∧ NamesAbility catalog ancestor)
              ∧ ¬ LooksShown catalog decl) := by
  have indexed := Program.ofFiles_indexed files
  have above := descendsFrom_iff_above indexed catalog (indexed.alone first)
  have shown := isShown_iff catalog decl
  obtain ⟨role, after, done, ordinary, generated⟩ :=
    classify_obliged obliging (.ofFiles files) catalog decl before
  refine ⟨role, after, done, ?_⟩
  rw [← above, ← shown]
  by_cases handwritten : Handwritten catalog decl
  · rw [ordinary handwritten, ordinaryRole]
    cases descendsFrom catalog.abilityBases (.ofFiles files) decl <;>
      cases isShown catalog decl <;> simp [handwritten]
  · simp [generated handwritten, handwritten]

/-- (declared path name superclass) is a class of which nothing else matters. -/
def declared (path name superclass : Text) : ClassDecl where
  name
  filePath := path
  superclass
  decorators := []
  methods := []

/-- (circle) is a file in which superclasses lead in a circle through an ability base. -/
def circle : SourceFile :=
  ⟨"a.ets",
    [declared "a.ets" "A" "B", declared "a.ets" "B" "UIAbility", declared "a.ets" "UIAbility" "A"]⟩

theorem circle_superclass
    : (Program.ofFiles [circle]).superclass? (declared "a.ets" "A" "B")
      = some (declared "a.ets" "B" "UIAbility") := by
  have found
      : (Program.ofFiles [circle]).class? "B" = some (declared "a.ets" "B" "UIAbility") := by
    rw [Program.class?_ofFiles]
    rfl
  exact found

/-- A class in a circle is an entry container because the class above it names an ability base. -/
theorem classify_iff_above_circle
    : Host.willing.Obliging
      ∧ (Program.ofFiles [circle]).class? (declared "a.ets" "A" "B").name
        = some (declared "a.ets" "A" "B")
      ∧ ∃ role after,
          outcome
              (classify .willing (.ofFiles [circle]) .standard (declared "a.ets" "A" "B"))
              .fresh
            = (.ok role, after)
          ∧ role = .entryContainer := by
  have obliging := Host.willing_denies_nothing
  have first
      : (Program.ofFiles [circle]).class? (declared "a.ets" "A" "B").name
        = some (declared "a.ets" "A" "B") := by
    rw [Program.class?_ofFiles]
    rfl
  obtain ⟨role, after, done, container, -⟩ :=
    classify_iff_above obliging [circle] .standard first .fresh
  refine ⟨obliging, first, role, after, done,
    container.mpr ⟨?_, _, .single circle_superclass, ?_⟩⟩
  · exact (isSynthetic_false_iff _ _).mp rfl
  · unfold NamesAbility
    decide

-----------------------------------------------------------------------------------------
-- Entry containers and their superclasses
-----------------------------------------------------------------------------------------

/-- For an obliging host it is told whether a class descends from an ability base. -/
theorem isEntryContainer_obliged {host : Host} (obliging : host.Obliging) (program : Program)
    (catalog : Catalog) (decl : ClassDecl) (before : Session)
    : ∃ after,
        outcome (isEntryContainer host program catalog decl) before
          = (.ok (descendsFrom catalog.abilityBases program decl), after) := by
  obtain ⟨after, -, told, -⟩ :=
    (isEntryContainer_answers program catalog decl).obliged obliging before
  exact ⟨after, told⟩

/-- A class whose superclass is an entry container is one exactly if a class that names an ability
base is above it and reached without arriving at a class of its own name. That is so whenever no
other class of its name is above it; the program may have other classes of that name elsewhere.
Witness: what is above the superclass is above the class.
-/
theorem isEntryContainer_inherited_iff {host : Host} (obliging : host.Obliging)
    (files : List SourceFile) (catalog : Catalog) {decl parent : ClassDecl}
    (inherits : (Program.ofFiles files).superclass? decl = some parent) (before : Session)
    : ∃ own after above later,
        outcome (isEntryContainer host (.ofFiles files) catalog decl) before = (.ok own, after)
        ∧ outcome (isEntryContainer host (.ofFiles files) catalog parent) before
          = (.ok above, later)
        ∧ (above = true
          → (own = true
              ↔ ∃ ancestor,
                  (Program.ofFiles files).AboveApart decl.name decl ancestor
                  ∧ NamesAbility catalog ancestor)
            ∧ ((Program.ofFiles files).Alone decl → own = true)) := by
  have indexed := Program.ofFiles_indexed files
  obtain ⟨after, told⟩ := isEntryContainer_obliged obliging (.ofFiles files) catalog decl before
  obtain ⟨later, known⟩ := isEntryContainer_obliged obliging (.ofFiles files) catalog parent before
  refine ⟨_, after, _, later, told, known, fun container => ⟨descendsFrom_iff indexed catalog decl,
    fun alone => ?_⟩⟩
  obtain ⟨ancestor, apart, named⟩ := (descendsFrom_iff indexed catalog parent).mp container
  exact (descendsFrom_iff_above indexed catalog alone).mpr
    ⟨ancestor, .head inherits apart.above, named⟩

/-- In the circle the role comes down from the superclass, although the circle leads back. -/
theorem isEntryContainer_inherited_iff_circle
    : Host.willing.Obliging
      ∧ (Program.ofFiles [circle]).superclass? (declared "a.ets" "A" "B")
        = some (declared "a.ets" "B" "UIAbility")
      ∧ ∃ own after,
          outcome
              (isEntryContainer .willing (.ofFiles [circle]) .standard (declared "a.ets" "A" "B"))
              .fresh
            = (.ok own, after)
          ∧ own = true := by
  have obliging := Host.willing_denies_nothing
  obtain ⟨own, after, above, later, told, known, inherited⟩ :=
    isEntryContainer_inherited_iff obliging [circle] .standard circle_superclass .fresh
  have container : above = true := by
    have direct
        : outcome
              (isEntryContainer .willing (.ofFiles [circle]) .standard
                (declared "a.ets" "B" "UIAbility"))
              .fresh
            = (.ok true, .fresh) := by
      rfl
    rw [known] at direct
    cases direct
    rfl
  refine ⟨obliging, circle_superclass, own, after, told, (inherited container).1.mpr ?_⟩
  refine ⟨_, .single ⟨circle_superclass, by decide⟩, ?_⟩
  unfold NamesAbility
  decide

/-- (namesakes) are two files that declare a class of the same name; the second class extends the
first one.
-/
def namesakes : List SourceFile :=
  [⟨"a.ets", [declared "a.ets" "A" "UIAbility"]⟩, ⟨"b.ets", [declared "b.ets" "A" "A"]⟩]

/-- The second of two classes of one name is no entry container, although its superclass is one. -/
theorem isEntryContainer_namesake_hidden
    : declared "b.ets" "A" "A" ∈ (Program.ofFiles namesakes).classes
      ∧ (Program.ofFiles namesakes).superclass? (declared "b.ets" "A" "A")
        = some (declared "a.ets" "A" "UIAbility")
      ∧ (outcome
            (isEntryContainer .willing (.ofFiles namesakes) .standard
              (declared "a.ets" "A" "UIAbility"))
            .fresh).1
        = .ok true
      ∧ (outcome
            (isEntryContainer .willing (.ofFiles namesakes) .standard (declared "b.ets" "A" "A"))
            .fresh).1
        = .ok false := by
  have inherits
      : (Program.ofFiles namesakes).superclass? (declared "b.ets" "A" "A")
        = some (declared "a.ets" "A" "UIAbility") := by
    have found
        : (Program.ofFiles namesakes).class? "A" = some (declared "a.ets" "A" "UIAbility") := by
      rw [Program.class?_ofFiles]
      rfl
    exact found
  -- The walk from the second class meets its own name at once.
  have stopped : (Program.ofFiles namesakes).ancestors (declared "b.ets" "A" "A") = [] := by
    unfold Program.ancestors
    change (Program.ofFiles namesakes).ancestorsFrom ["A"] 2 _ = []
    rw [Program.ancestorsFrom, inherits]
    rfl
  refine ⟨List.mem_cons_of_mem _ List.mem_cons_self, inherits, rfl, ?_⟩
  obtain ⟨after, told⟩ := isEntryContainer_obliged Host.willing_denies_nothing
    (.ofFiles namesakes) .standard (declared "b.ets" "A" "A") .fresh
  rw [told, descendsFrom, stopped]
  rfl

end Classification

end ArkLifecycle
