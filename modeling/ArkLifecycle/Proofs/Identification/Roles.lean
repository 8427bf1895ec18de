import ArkLifecycle.Proofs.Identification.Collection
import ArkLifecycle.Proofs.Json.Fields

/-! Whether the roles of an identification explain its records.

Roles are noted by the names of the classes, and every class writes over the role of an earlier one
of its name. So the noted roles are those of all examined classes exactly if classes of one name
have the same role.
-/

namespace ArkLifecycle

open Activity Classification

-----------------------------------------------------------------------------------------
-- Noting roles by name
-----------------------------------------------------------------------------------------

namespace Identification

/-- (rolesOf classified name) are the roles of the classes of some name, in order. -/
def rolesOf (classified : List (ClassDecl × Role)) (name : Text) : List Role :=
  (classified.filter fun entry => entry.1.name = name).map Prod.snd

theorem mem_rolesOf {classified : List (ClassDecl × Role)} {name : Text} {role : Role}
    : role ∈ rolesOf classified name ↔ ∃ decl, (decl, role) ∈ classified ∧ decl.name = name := by
  simp [rolesOf]

/-- A name has the role of the last class of that name.
Witness: induction over the classes; each of them writes over what is noted for its name.
-/
theorem lookup_foldl_putRole (classified : List (ClassDecl × Role)) (roles : List (Text × Role))
    (name : Text)
    : Json.lookup
        (classified.foldl (fun roles entry => putRole roles entry.1.name entry.2) roles) name
      = (rolesOf classified name).getLast?.or (Json.lookup roles name) := by
  induction classified generalizing roles with
  | nil => rfl
  | cons entry rest ih =>
      rw [List.foldl_cons, ih, putRole, Json.lookup_put]
      by_cases named : entry.1.name = name
      · simp [rolesOf, Name.same, named, List.getLast?_cons]
      · simp [rolesOf, Name.same, named]

theorem exists_getLast?_rolesOf {classified : List (ClassDecl × Role)} {decl : ClassDecl}
    {role : Role} (listed : (decl, role) ∈ classified)
    : ∃ last ∈ rolesOf classified decl.name,
        (rolesOf classified decl.name).getLast? = some last := by
  have present : role ∈ rolesOf classified decl.name := mem_rolesOf.mpr ⟨decl, listed, rfl⟩
  have ends := List.getLast?_eq_some_getLast (List.ne_nil_of_mem present)
  exact ⟨_, List.mem_of_getLast? ends, ends⟩

/-- The roles noted last are those of all classes exactly if classes of one name have the same
role.
-/
theorem getLast?_rolesOf_iff (classified : List (ClassDecl × Role))
    : (∀ entry ∈ classified, (rolesOf classified entry.1.name).getLast? = some entry.2)
      ↔ ∀ entry ∈ classified,
          ∀ other ∈ classified, entry.1.name = other.1.name → entry.2 = other.2 := by
  constructor
  · intro noted entry member other elsewhere named
    have last := noted entry member
    rw [named, noted other elsewhere] at last
    exact (Option.some.inj last).symm
  · intro agree entry member
    obtain ⟨role, noted, last⟩ := exists_getLast?_rolesOf member
    obtain ⟨decl, listed, named⟩ := mem_rolesOf.mp noted
    rw [last]
    exact congrArg some (agree (decl, role) listed entry member named)

-----------------------------------------------------------------------------------------
-- Whole identifications
-----------------------------------------------------------------------------------------

/-- An identification that does not fail notes, for every name, the role of the last examined class
of that name. These are the roles of all examined classes exactly if classes of one name have the
same role. A record belongs to a class in the role of its kind, and that role is noted if the
classes of this name have the same role.
Witness: the roles are noted one after the other, by name.
-/
theorem identify_roles_iff (host : Host) (program : Program) (catalog : Catalog)
    (skipTests : Bool) (before : Session)
    : (¬ catalog.PatternsAreTexts
        ∧ ∃ fault,
            (outcome (identify host program catalog skipTests) before).1 = .error fault)
      ∨ ∃ classified found after,
          outcome (identify host program catalog skipTests) before = (.ok found, after)
          ∧ classified.map Prod.fst = examined catalog skipTests program.files
          ∧ (∀ entry ∈ classified, Classified host program catalog entry)
          ∧ (∀ name, Json.lookup found.roles name = (rolesOf classified name).getLast?)
          ∧ ((∀ entry ∈ classified, Json.lookup found.roles entry.1.name = some entry.2)
            ↔ ∀ entry ∈ classified,
                ∀ other ∈ classified, entry.1.name = other.1.name → entry.2 = other.2)
          ∧ ∀ record ∈ found.records,
              (∃ decl,
                (decl, record.kind.role) ∈ classified
                ∧ record ∈ recordsAs catalog decl record.kind.role
                ∧ decl.name = record.className)
              ∧ ((∀ role ∈ rolesOf classified record.className, role = record.kind.role)
                → Json.lookup found.roles record.className = some record.kind.role) := by
  refine (identify_collects host program catalog skipTests before).imp_right ?_
  rintro ⟨chosen, classified, found, after, -, done, same, told, collects⟩
  have noted (name : Text)
      : Json.lookup found.roles name = (rolesOf classified name).getLast? := by
    rw [collects.roles, lookup_foldl_putRole]
    exact Option.or_none
  refine ⟨classified, found, after, done, same, told, noted, ?_, ?_⟩
  · simp only [noted]
    exact getLast?_rolesOf_iff classified
  · intro record member
    rcases collects.records member with empty | ⟨⟨decl, role⟩, listed, given⟩
    · cases empty
    · obtain ⟨method, -, kind, ⟨rfl, -⟩, rfl⟩ := of_mem_recordsAs given
      refine ⟨⟨decl, listed, given, rfl⟩, ?_⟩
      intro agree
      obtain ⟨role, among, last⟩ := exists_getLast?_rolesOf listed
      rw [noted, last, agree role among]

-----------------------------------------------------------------------------------------
-- Classes of one name in different roles
-----------------------------------------------------------------------------------------

/-- (starting) is a class that the framework starts, and (plain) one of its name that it does not
know.
-/
def starting : ClassDecl where
  name := "A"
  filePath := "a.ets"
  superclass := "UIAbility"
  decorators := []
  methods := [⟨"onCreate", "A", "@a.ets: A.onCreate()", "a.ets", 1, 0, none⟩]

@[inherit_doc starting]
def plain : ClassDecl where
  name := "A"
  filePath := "b.ets"
  superclass := ""
  decorators := []
  methods := []

/-- (namesakes) declares them in two files. -/
def namesakes : Program :=
  .ofFiles [⟨"a.ets", [starting]⟩, ⟨"b.ets", [plain]⟩]

/-- The class that is examined last takes the role away from the one that has a record: it is noted
that the framework does not know the class of a callback.
-/
theorem identify_namesake_unexplained
    : ∃ found after,
        outcome (identify .willing namesakes .standard false) .fresh = (.ok found, after)
        ∧ starting ∈ examined .standard false namesakes.files
        ∧ (∀ session,
          (outcome (classify .willing namesakes .standard starting) session).1
            = .ok .entryContainer)
        ∧ Json.lookup found.roles starting.name = some .none
        ∧ found.records.map (fun record => (record.className, record.kind.role))
          = [(starting.name, .entryContainer)] := by
  obtain ⟨after, done⟩ :=
    identify_obliged Host.willing_denies_nothing namesakes .standard false .fresh
  refine ⟨_, after, done, ?_, ?_, rfl, rfl⟩
  · exact List.mem_cons_self
  · intro session
    rfl

end Identification

end ArkLifecycle
