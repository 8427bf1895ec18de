import ArkLifecycle.Proofs.Classification.Ancestry

/-! The course of the walk up the superclasses.

Wherever the walk begins it ends, because each turn meets one more of the names of classes. What it
lists can be told without walking: each class is the superclass of the one before, no name comes
twice, and from the last class there is no way on to a name that was not met.
-/

namespace ArkLifecycle.Program

variable {program : Program}

-----------------------------------------------------------------------------------------
-- Turns
-----------------------------------------------------------------------------------------

/-- (program.Turn before after) holds when the walk goes on from the class before to the class
after. With each class come the names that were met so far.
-/
inductive Turn (program : Program) : List Text × ClassDecl → List Text × ClassDecl → Prop
  | up {visited decl parent} (found : program.superclass? decl = some parent)
    (fresh : parent.name ∉ visited)
    : program.Turn (visited, decl) (parent.name :: visited, parent)

/-- A walk cannot take turns forever.
Witness: induction on the budget; each turn spends one unit of it, and none is left to take when it
is spent.
-/
theorem Walked.accessible (indexed : program.Indexed) (start : Text) {fuel : Nat}
    {names : List Text} (walked : program.Walked fuel names) (decl : ClassDecl)
    : Acc (fun after before => program.Turn before after) (names ++ [start], decl) := by
  induction fuel generalizing names decl with
  | zero =>
      constructor
      intro after turn
      cases turn with
      | up found fresh =>
          have met := walked.exhausted indexed found
          exact absurd (List.mem_append_left _ met) fresh
  | succ fuel ih =>
      constructor
      intro after turn
      cases turn with
      | @up _ _ parent found fresh => exact ih (walked.step indexed found fresh) parent

-----------------------------------------------------------------------------------------
-- What the walk lists
-----------------------------------------------------------------------------------------

/-- (program.Climbs visited decl ancestors) says what a walk from a class lists that has met some
names before: a chain of superclasses of new names, after which no superclass has a new name.
-/
structure Climbs (program : Program) (visited : List Text) (decl : ClassDecl)
    (ancestors : List ClassDecl)
    : Prop where
  chained
    : (decl :: ancestors).IsChain fun below above => program.superclass? below = some above
  distinct : (ancestors.map ClassDecl.name).Nodup
  fresh : ∀ ancestor ∈ ancestors, ancestor.name ∉ visited
  stops
    : ∀ above,
        program.superclass? (ancestors.getLastD decl) = some above
        → above.name ∈ visited ++ ancestors.map ClassDecl.name

variable {visited : List Text} {decl parent : ClassDecl} {rest : List ClassDecl}

/-- A walk gets no further than where it begins if there is no superclass of a new name. -/
theorem climbs_nil_iff
    : program.Climbs visited decl []
      ↔ ∀ above, program.superclass? decl = some above → above.name ∈ visited := by
  constructor
  · intro climbs above found
    simpa using climbs.stops above found
  · intro stops
    exact ⟨.singleton decl, List.nodup_nil, List.forall_mem_nil _, by simpa using stops⟩

/-- A walk goes on with the superclass, if its name is new, as a walk that has met this name too. -/
theorem climbs_cons_iff
    : program.Climbs visited decl (parent :: rest)
      ↔ program.superclass? decl = some parent
        ∧ parent.name ∉ visited
        ∧ program.Climbs (parent.name :: visited) parent rest := by
  constructor
  · rintro ⟨chained, distinct, fresh, stops⟩
    obtain ⟨found, later⟩ := List.isChain_cons_cons.mp chained
    obtain ⟨once, distinct⟩ := List.nodup_cons.mp distinct
    obtain ⟨new, fresh⟩ := List.forall_mem_cons.mp fresh
    refine ⟨found, new, later, distinct, ?_, ?_⟩
    · intro ancestor member met
      rcases List.mem_cons.mp met with same | old
      · exact once (same ▸ List.mem_map_of_mem member)
      · exact fresh ancestor member old
    · intro above beyond
      have met := stops above (by rwa [List.getLastD_cons])
      exact List.perm_middle.mem_iff.mp met
  · rintro ⟨found, new, chained, distinct, fresh, stops⟩
    have once : parent.name ∉ rest.map ClassDecl.name := by
      intro again
      obtain ⟨ancestor, member, same⟩ := List.mem_map.mp again
      exact fresh ancestor member (same ▸ List.mem_cons_self)
    refine ⟨List.isChain_cons_cons.mpr ⟨found, chained⟩, List.nodup_cons.mpr ⟨once, distinct⟩,
      List.forall_mem_cons.mpr ⟨new, ?_⟩, ?_⟩
    · intro ancestor member met
      exact fresh ancestor member (List.mem_cons_of_mem _ met)
    · intro above beyond
      rw [List.getLastD_cons] at beyond
      exact List.perm_middle.mem_iff.mpr (stops above beyond)

/-- A turn lists nothing exactly if there is no superclass of a new name. -/
theorem ancestorsFrom_eq_nil_iff {fuel : Nat}
    : program.ancestorsFrom visited (fuel + 1) decl = []
      ↔ ∀ above, program.superclass? decl = some above → above.name ∈ visited := by
  rw [ancestorsFrom]
  cases program.superclass? decl with
  | none => simp
  | some parent => by_cases met : parent.name ∈ visited <;> simp [met]

/-- A turn lists the superclass if its name is new, and then what the walk lists from there. -/
theorem ancestorsFrom_eq_cons_iff {fuel : Nat}
    : program.ancestorsFrom visited (fuel + 1) decl = parent :: rest
      ↔ program.superclass? decl = some parent
        ∧ parent.name ∉ visited
        ∧ program.ancestorsFrom (parent.name :: visited) fuel parent = rest := by
  rw [ancestorsFrom]
  cases program.superclass? decl with
  | none => simp
  | some next =>
      by_cases same : next = parent
      · subst same
        by_cases met : next.name ∈ visited <;> simp [met]
      · by_cases met : next.name ∈ visited <;> simp [met, same]

/-- A walk with enough fuel lists what it climbs, and nothing else is climbed.
Witness: induction on the fuel; the walk and what is climbed go on alike.
-/
theorem Walked.ancestorsFrom_eq_iff (indexed : program.Indexed) (start : Text) {fuel : Nat}
    {names : List Text} (walked : program.Walked fuel names) (decl : ClassDecl)
    (ancestors : List ClassDecl)
    : program.ancestorsFrom (names ++ [start]) fuel decl = ancestors
      ↔ program.Climbs (names ++ [start]) decl ancestors := by
  induction fuel generalizing names decl ancestors with
  | zero =>
      have met (above : ClassDecl) (found : program.superclass? decl = some above)
          : above.name ∈ names ++ [start] :=
        List.mem_append_left _ (walked.exhausted indexed found)
      cases ancestors with
      | nil => exact iff_of_true rfl (climbs_nil_iff.mpr met)
      | cons parent rest =>
          refine iff_of_false (List.cons_ne_nil _ _).symm fun climbs => ?_
          obtain ⟨found, fresh, -⟩ := climbs_cons_iff.mp climbs
          exact fresh (met parent found)
  | succ fuel ih =>
      cases ancestors with
      | nil => rw [ancestorsFrom_eq_nil_iff, climbs_nil_iff]
      | cons parent rest =>
          rw [ancestorsFrom_eq_cons_iff, climbs_cons_iff]
          refine and_congr_right fun found => and_congr_right fun fresh => ?_
          exact ih (walked.step indexed found fresh) parent rest

/-- The walk up the superclasses of any class ends, and what it lists is the one list of classes
that follow each other as superclasses, with names that differ from each other and from that of the
class, after which there is no superclass of a new name.
-/
theorem ancestors_climb (files : List SourceFile) (decl : ClassDecl)
    : Acc (fun after before => (ofFiles files).Turn before after) ([decl.name], decl)
      ∧ ∀ ancestors,
          (ofFiles files).ancestors decl = ancestors
          ↔ (ofFiles files).Climbs [decl.name] decl ancestors := by
  have indexed := ofFiles_indexed files
  have walked := Walked.start (ofFiles files)
  refine ⟨walked.accessible indexed decl.name decl, ?_⟩
  intro ancestors
  exact walked.ancestorsFrom_eq_iff indexed decl.name decl ancestors

end ArkLifecycle.Program
