import ArkLifecycle.Catalog.Builtin
import ArkLifecycle.Classification
import ArkLifecycle.Proofs.Session.Inquiry

/-! The true role of a class, and that it is told truthfully or not at all.

The walk up the superclasses stops at the first class that extends an ability base, so a role rests
on questions about the classes below that one and about the markers of the class itself.
-/

namespace ArkLifecycle

/-- The patterns in the names of generated classes are texts. -/
def Catalog.PatternsAreTexts (catalog : Catalog) : Prop :=
  ∀ pattern ∈ catalog.syntheticPatterns, ∃ written, pattern = .text written

/-- The patterns of the standard catalog are texts. -/
theorem Catalog.standard_texts : Catalog.standard.PatternsAreTexts := by
  intro pattern member
  obtain ⟨written, -, same⟩ := List.mem_map.mp member
  exact ⟨written, same.symm⟩

namespace Classification

open Activity

variable {host : Host} {about : Query → Prop}

-----------------------------------------------------------------------------------------
-- True roles
-----------------------------------------------------------------------------------------

/-- (isGenerated catalog decl) holds when the name of the class has a pattern of generated ones. -/
def isGenerated (catalog : Catalog) (decl : ClassDecl) : Bool :=
  catalog.syntheticPatterns.any fun pattern =>
    match pattern with
    | .text written => Text.contains decl.name written
    | _ => false

/-- (descendsFrom bases program decl) holds when the class or one of its ancestors extends one of
the bases.
-/
def descendsFrom (bases : List Scalar) (program : Program) (decl : ClassDecl) : Bool :=
  (decl :: program.ancestors decl).any (extendsOne bases)

/-- (isShown catalog decl) holds when the class extends a component base or carries a marker. -/
def isShown (catalog : Catalog) (decl : ClassDecl) : Bool :=
  extendsOne catalog.componentBases decl || catalog.markers.any decl.carries

/-- (roleIn program catalog decl) is the role of a class when nobody denies a question. -/
def roleIn (program : Program) (catalog : Catalog) (decl : ClassDecl) : Role :=
  if isGenerated catalog decl then
    .none
  else if descendsFrom catalog.abilityBases program decl then
    .entryContainer
  else if isShown catalog decl then
    .uiComponent
  else
    .none

/-- (ordinaryRole program catalog decl) is the role of a class that was not generated. -/
def ordinaryRole (program : Program) (catalog : Catalog) (decl : ClassDecl) : Role :=
  if descendsFrom catalog.abilityBases program decl then
    .entryContainer
  else if isShown catalog decl then
    .uiComponent
  else
    .none

/-- (visitedFor program catalog decl) are the classes whose superclass is asked for, to tell the
role of a class: itself and its ancestors, up to the first one that extends an ability base.
-/
def visitedFor (program : Program) (catalog : Catalog) (decl : ClassDecl) : List ClassDecl :=
  (decl :: program.ancestors decl).takeWhile fun visited =>
    !extendsOne catalog.abilityBases visited

/-- A question on a class, on one of its methods, or on an ancestor that is visited for it. -/
inductive Concerns (program : Program) (catalog : Catalog) (decl : ClassDecl) : Query → Prop
  | methods
    : Concerns program catalog decl (.methods decl)
  | marker (marker : Json)
    : Concerns program catalog decl (.marker decl marker)
  | body {method} (member : method ∈ decl.methods)
    : Concerns program catalog decl (.body method)
  | superclass {visited} (member : visited ∈ visitedFor program catalog decl)
    : Concerns program catalog decl (.superclass visited)

/-- With texts as patterns it can always be told whether a class was generated.
Witness: induction over the patterns.
-/
theorem isSynthetic_texts {catalog : Catalog} (texts : catalog.PatternsAreTexts)
    (decl : ClassDecl)
    : isSynthetic catalog decl = .ok (isGenerated catalog decl) := by
  have walk (patterns : List Json)
      (texts : ∀ pattern ∈ patterns, ∃ written, pattern = .text written)
      : occurs decl.name patterns
        = .ok (patterns.any fun pattern =>
            match pattern with
            | .text written => Text.contains decl.name written
            | _ => false) := by
    induction patterns with
    | nil => rfl
    | cons pattern rest ih =>
        obtain ⟨written, rfl⟩ := texts pattern (by simp)
        have later := ih fun pattern member => texts pattern (List.mem_cons_of_mem _ member)
        cases found : Text.contains decl.name written with
        | true => simp [occurs, found]
        | false => simpa [occurs, found] using later
  exact walk catalog.syntheticPatterns texts

-----------------------------------------------------------------------------------------
-- Telling a role
-----------------------------------------------------------------------------------------

/-- The walk up the ancestors of a class that fails the test tells whether one of them passes it,
and asks for the superclasses of those that do not.
Witness: induction over the ancestors, the walk having arrived at the class below them.
-/
theorem anyAncestor_answers (test : ClassDecl → Bool) (decl : ClassDecl)
    (ancestors : List ClassDecl) (fails : test decl = false)
    (concerned
      : ∀ visited ∈ (decl :: ancestors).takeWhile (fun visited => !test visited),
          about (.superclass visited))
    : Answers host about (anyAncestor host test decl ancestors) (.ok (ancestors.any test)) := by
  have asked : Answers host about (Activity.ask host (.superclass decl)) (.ok ()) :=
    .ask (concerned decl (by simp [fails]))
  induction ancestors generalizing decl with
  | nil => exact asked.bind_ok (.pure false)
  | cons parent rest ih =>
      refine asked.bind_ok ?_
      cases passes : test parent with
      | true =>
          simp only [passes, if_true, List.any_cons, Bool.true_or]
          exact .pure true
      | false =>
          have later
              : ∀ visited ∈ (parent :: rest).takeWhile (fun visited => !test visited),
                  about (.superclass visited) := by
            intro visited member
            exact concerned visited (by simp [fails, member])
          simp only [passes, List.any_cons, Bool.false_or]
          exact ih parent passes later (.ask (later parent (by simp [passes])))

/-- Whether a class is an entry container is told truthfully or not at all. -/
theorem isEntryContainer_answers (program : Program) (catalog : Catalog) (decl : ClassDecl)
    : Answers host (Concerns program catalog decl) (isEntryContainer host program catalog decl)
        (.ok (descendsFrom catalog.abilityBases program decl)) := by
  unfold isEntryContainer descendsFrom
  cases direct : extendsOne catalog.abilityBases decl with
  | true =>
      simp only [direct, if_true, List.any_cons, Bool.true_or]
      exact .pure true
  | false =>
      simp only [direct, List.any_cons, Bool.false_or]
      exact anyAncestor_answers _ decl _ direct fun visited member => .superclass member

/-- Whether a class carries one of some markers is told truthfully or not at all.
Witness: induction over the markers; the first one that it carries ends the search.
-/
theorem carriesOne_answers (program : Program) (catalog : Catalog) (decl : ClassDecl)
    (markers : List Json)
    : Answers host (Concerns program catalog decl) (carriesOne host decl markers)
        (.ok (markers.any decl.carries)) := by
  induction markers with
  | nil => exact .pure false
  | cons marker rest ih =>
      refine (Answers.carries (.marker marker)).bind_ok ?_
      cases carried : decl.carries marker with
      | true =>
          simp only [if_true, List.any_cons, carried, Bool.true_or]
          exact .pure true
      | false =>
          simp only [List.any_cons, carried, Bool.false_or]
          exact ih

/-- Whether a class is a UI component is told truthfully or not at all. -/
theorem isUiComponent_answers (program : Program) (catalog : Catalog) (decl : ClassDecl)
    : Answers host (Concerns program catalog decl) (isUiComponent host catalog decl)
        (.ok (isShown catalog decl)) := by
  unfold isUiComponent isShown
  cases direct : extendsOne catalog.componentBases decl with
  | true =>
      simp only [if_true, Bool.true_or]
      exact .pure true
  | false => exact carriesOne_answers program catalog decl catalog.markers

/-- The role of a class is told truthfully or not at all, and only questions that concern the class
are put for it. It cannot be told when a pattern is no text and nothing before it occurs in the
name.
-/
theorem roleOf_tells (host : Host) (program : Program) (catalog : Catalog) (decl : ClassDecl)
    : Answers host (Concerns program catalog decl) (roleOf host program catalog decl)
        (isSynthetic catalog decl >>= fun generated =>
          .ok (if generated then .none else ordinaryRole program catalog decl)) := by
  unfold roleOf ordinaryRole
  refine (Answers.lift _).bind fun generated _ => ?_
  cases generated with
  | true => exact .pure _
  | false =>
      refine (isEntryContainer_answers program catalog decl).bind_ok ?_
      cases descendsFrom catalog.abilityBases program decl with
      | true => exact .pure _
      | false =>
          refine (isUiComponent_answers program catalog decl).bind_ok ?_
          cases isShown catalog decl with
          | true => exact .pure _
          | false => exact .pure _

/-- With texts as patterns, the role of a class is told truthfully or not at all. -/
theorem roleOf_answers {catalog : Catalog} (texts : catalog.PatternsAreTexts) (host : Host)
    (program : Program) (decl : ClassDecl)
    : Answers host (Concerns program catalog decl) (roleOf host program catalog decl)
        (.ok (roleIn program catalog decl)) := by
  have told := roleOf_tells host program catalog decl
  rw [isSynthetic_texts texts] at told
  exact told

/-- A class gets its true role, or none because a question that concerns it was denied. -/
theorem classify_true_or_none {catalog : Catalog} (texts : catalog.PatternsAreTexts)
    (host : Host) (program : Program) (decl : ClassDecl) (before : Session)
    : ∃ role after asked,
        outcome (classify host program catalog decl) before = (.ok role, after)
        ∧ Asked before after asked
        ∧ (∀ query ∈ asked, Concerns program catalog decl query)
        ∧ (role = roleIn program catalog decl
          ∨ role = .none
            ∧ ∃ question ∈ questionsOn before.queries asked, host.denies question) := by
  obtain ⟨asked, step, concerned, told⟩ := roleOf_answers texts host program decl before
  unfold classify
  rw [outcome_bind, outcome_attempt]
  rcases told with told | ⟨⟨fault, failed⟩, denied⟩
  · rw [told]
    exact ⟨_, _, asked, rfl, step, concerned, Or.inl rfl⟩
  · rw [failed]
    exact ⟨_, _, asked, rfl, step, concerned, Or.inr ⟨rfl, denied⟩⟩

end Classification

end ArkLifecycle
