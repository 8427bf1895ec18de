import ArkLifecycle.Proofs.Classification.Ancestry
import ArkLifecycle.Proofs.Identification.Visit
import ArkLifecycle.Proofs.Json.Sameness

/-! The records of an identification are exactly those that the catalog asks for.

Files, classes and methods are walked in order. A method gives one record when a kind that belongs
to the role of its class lists its name, and the first such kind is the kind of the record.
-/

namespace ArkLifecycle

open Activity Classification

-----------------------------------------------------------------------------------------
-- Names and kinds
-----------------------------------------------------------------------------------------

/-- Only a text is the same name as a text. -/
theorem Catalog.recognizes_iff (catalog : Catalog) (kind : Kind) (name : Text)
    : catalog.recognizes kind name = true ↔ .text name ∈ catalog.names kind := by
  simp [Catalog.recognizes, Scalar.same_text_iff]

theorem Kind.mem_all (kind : Kind) : kind ∈ Kind.all := by
  cases kind <;> decide

/-- A search through the kinds stops at the first one that passes the test. -/
theorem Kind.idxOf_le_of_find? {test : Kind → Bool} {kind other : Kind}
    (found : Kind.all.find? test = some kind) (passes : test other = true)
    : Kind.all.idxOf kind ≤ Kind.all.idxOf other := by
  obtain ⟨-, place, inside, here, earlier⟩ := List.find?_eq_some_iff_getElem.mp found
  have distinct : Kind.all.Nodup := by decide
  have standing : Kind.all.idxOf other < Kind.all.length :=
    List.idxOf_lt_length_of_mem other.mem_all
  rw [← here, distinct.idxOf_getElem]
  by_contra later
  have missed := earlier (Kind.all.idxOf other) (by omega)
  simp [passes] at missed

namespace Identification

-----------------------------------------------------------------------------------------
-- What is walked
-----------------------------------------------------------------------------------------

/-- The file is left out: files of tests are to be skipped, and its path tells that it is one. -/
def LeftOut (skipTests : Bool) (file : SourceFile) : Prop :=
  skipTests = true ∧ (Text.Occurs "test" file.path ∨ Text.Occurs "Test" file.path)

instance (skipTests : Bool) (file : SourceFile) : Decidable (LeftOut skipTests file) :=
  inferInstanceAs (Decidable (_ ∧ _))

theorem isSkipped_iff (skipTests : Bool) (file : SourceFile)
    : isSkipped skipTests file = true ↔ LeftOut skipTests file := by
  simp [isSkipped, isTestPath, LeftOut, Text.contains_iff]

/-- With texts as patterns, a class is examined exactly if no pattern occurs in its name. -/
theorem isGenerated_false_iff {catalog : Catalog} (texts : catalog.PatternsAreTexts)
    (decl : ClassDecl)
    : isGenerated catalog decl = false ↔ Handwritten catalog decl := by
  simp [← isSynthetic_false_iff, isSynthetic_texts texts]

/-- The examined classes are those of one walked file after the other. -/
theorem examined_eq_walk {catalog : Catalog} (texts : catalog.PatternsAreTexts)
    (skipTests : Bool) (files : List SourceFile)
    : examined catalog skipTests files
      = (files.filter fun file => ¬ LeftOut skipTests file).flatMap fun file =>
          file.classes.filter fun decl => Handwritten catalog decl := by
  have walked (file : SourceFile)
      : (!isSkipped skipTests file) = decide (¬ LeftOut skipTests file) := by
    simp [← isSkipped_iff]
  have kept (decl : ClassDecl)
      : (!isGenerated catalog decl) = decide (Handwritten catalog decl) := by
    simp [← isGenerated_false_iff texts]
  simp only [examined, Program.classesOf, List.filter_flatMap, walked, kept]

-----------------------------------------------------------------------------------------
-- What a method gives
-----------------------------------------------------------------------------------------

/-- The kind belongs to the role, and the catalog lists the name among it. -/
def Lists (catalog : Catalog) (role : Role) (name : Text) (kind : Kind) : Prop :=
  kind.role = role ∧ .text name ∈ catalog.names kind

instance (catalog : Catalog) (role : Role) (name : Text) (kind : Kind)
    : Decidable (Lists catalog role name kind) :=
  inferInstanceAs (Decidable (_ ∧ _))

/-- What a method gives in a class of some role: one record of the first kind that lists its name,
or nothing because no kind of the role does.
-/
inductive Emits (catalog : Catalog) (role : Role) (decl : ClassDecl) (method : Method)
    : Option Record → Prop
  | record {kind : Kind} {implemented : Bool}
    (listed : Lists catalog role method.name kind)
    (first
      : ∀ other,
          Lists catalog role method.name other → Kind.all.idxOf kind ≤ Kind.all.idxOf other)
    (body : implemented = true ↔ ∃ cfg, method.cfg = some cfg ∧ cfg.blocks ≠ [])
    : Emits catalog role decl method
        (some {
          methodName := method.name
          kind
          className := decl.name
          filePath := decl.filePath
          line := method.line
          hasImplementation := implemented
          signature := method.signature
          method := some method })
  | nothing (unlisted : ∀ kind, ¬ Lists catalog role method.name kind)
    : Emits catalog role decl method none

/-- No kind of callback belongs to classes without a role. -/
theorem Emits.nothing_without_role {catalog : Catalog} {role : Role} {decl : ClassDecl}
    {method : Method} {given : Option Record} (emits : Emits catalog role decl method given)
    (roleless : role = .none)
    : given = none := by
  cases emits with
  | @record kind _ listed _ _ =>
      have owned := listed.1.trans roleless
      cases kind <;> cases owned
  | nothing _ => rfl

/-- What a method gives is determined.
Witness: of two kinds that both come first, neither comes before the other.
-/
theorem Emits.unique {catalog : Catalog} {role : Role} {decl : ClassDecl} {method : Method}
    {given other : Option Record} (emits : Emits catalog role decl method given)
    (again : Emits catalog role decl method other)
    : given = other := by
  cases emits with
  | @record kind implemented listed first body =>
      cases again with
      | @record kind' implemented' listed' first' body' =>
          have same : kind = kind' := by
            have places := Nat.le_antisymm (first kind' listed') (first' kind listed)
            exact (List.idxOf_inj kind.mem_all).mp places
          have both : implemented = implemented' := by
            rw [Bool.eq_iff_iff, body, body']
          rw [same, both]
      | nothing unlisted => exact absurd listed (unlisted kind)
  | nothing unlisted =>
      cases again with
      | @record kind _ listed _ _ => exact absurd listed (unlisted kind)
      | nothing _ => rfl

/-- Searching the kinds of a role for a name gives the first kind that lists it.
Witness: the kinds that are not looked through list nothing.
-/
theorem find?_kindsOf (catalog : Catalog) (role : Role) (name : Text)
    : (kindsOf catalog role).find? (fun kind => catalog.recognizes kind name)
      = Kind.all.find? fun kind => Lists catalog role name kind := by
  have kinds
      : kindsOf catalog role
        = Kind.all.filter fun kind => kind.role = role ∧ !(catalog.names kind).isEmpty := by
    cases role <;> rfl
  rw [kinds, List.find?_filter]
  refine congrArg (Kind.all.find? ·) (funext fun kind => decide_eq_decide.mpr ?_)
  simp only [decide_eq_true_eq, Catalog.recognizes_iff, and_assoc, Lists]
  -- A kind that lists the name is not empty, so it is among those looked through.
  refine and_congr_right fun _ => ⟨And.right, fun listed => ⟨?_, listed⟩⟩
  simpa using List.ne_nil_of_mem listed

/-- The true record of a method is what the method gives. -/
theorem recordIn_emits (catalog : Catalog) (role : Role) (decl : ClassDecl) (method : Method)
    : Emits catalog role decl method
        (recordIn catalog decl (kindsOf catalog role) method) := by
  unfold recordIn
  rw [find?_kindsOf]
  cases found : Kind.all.find? fun kind => Lists catalog role method.name kind with
  | none =>
      refine .nothing fun kind listed => ?_
      have missed := List.find?_eq_none.mp found kind kind.mem_all
      simp [listed] at missed
  | some kind =>
      refine .record (by simpa using List.find?_some found) ?_ ?_
      · intro other listed
        exact Kind.idxOf_le_of_find? found (by simpa using listed)
      · unfold Method.hasImplementation Method.isImplemented
        cases method.cfg with
        | none => simp
        | some cfg => simp [Cfg.isEmpty]

-----------------------------------------------------------------------------------------
-- Whole identifications
-----------------------------------------------------------------------------------------

/-- For an obliging host the records are those of a walk through files, classes and methods, with
at most one record for each method, as its class and the role of its class decide.
Witness: an obliging host is told the true records of the examined classes.
-/
theorem identify_exact {host : Host} (obliging : host.Obliging) (program : Program)
    {catalog : Catalog} (texts : catalog.PatternsAreTexts) (skipTests : Bool) (before : Session)
    : ∃ (found : Identification) (after : Session) (role : ClassDecl → Role)
          (emitted : ClassDecl → Method → Option Record),
        outcome (identify host program catalog skipTests) before = (.ok found, after)
        ∧ found.records
          = ((program.files.filter fun file => ¬ LeftOut skipTests file).flatMap fun file =>
              (file.classes.filter fun decl => Handwritten catalog decl).flatMap fun decl =>
                decl.methods.filterMap (emitted decl))
        ∧ (∀ decl session,
          (outcome (classify host program catalog decl) session).1 = .ok (role decl))
        ∧ (∀ decl method, Emits catalog (role decl) decl method (emitted decl method))
        ∧ ∀ decl, role decl = .none → ∀ method, emitted decl method = none := by
  obtain ⟨visits, found, after, done, -, visited⟩ :=
    identify_isolated texts host program skipTests before
  let role : ClassDecl → Role := roleIn program catalog
  let emitted (decl : ClassDecl) : Method → Option Record :=
    recordIn catalog decl (kindsOf catalog (role decl))
  refine ⟨found, after, role, emitted, done, ?_, ?_, ?_, ?_⟩
  · rw [visited.records_obliged obliging, examined_eq_walk texts, List.flatMap_assoc]
    rfl
  · intro decl session
    obtain ⟨told, later, asked, classified, -, -, same⟩ :=
      classify_true_or_none texts host program decl session
    rw [classified]
    rcases same with same | ⟨-, question, -, denied⟩
    · rw [same]
    · exact absurd denied (obliging.not_denies question)
  · intro decl method
    exact recordIn_emits catalog (role decl) decl method
  · intro decl roleless method
    exact (recordIn_emits catalog (role decl) decl method).nothing_without_role roleless

/-- (overlapping) lists one name among two kinds of callbacks of components. -/
def overlapping : Catalog :=
  { Catalog.standard with
    names := fun kind =>
      match kind with
      | .ability => []
      | .component => [.text "onShow"]
      | .callback => [.text "onShow"] }

/-- (page) is a component with one method of that name and another one. -/
def page : ClassDecl where
  name := "Page"
  filePath := "a.ets"
  superclass := ""
  decorators := ["Component"]
  methods := [
    ⟨"onShow", "Page", "show", "a.ets", 1, 0, some ⟨[⟨0, []⟩]⟩⟩,
    ⟨"other", "Page", "other", "a.ets", 2, 0, none⟩]

/-- Of a page in a file and in a test file, the first one alone gives a record, and only one
although two kinds list the name.
-/
theorem identify_exact_overlapping
    : Host.willing.Obliging
      ∧ overlapping.PatternsAreTexts
      ∧ ∃ found after,
          outcome
              (identify .willing (.ofFiles [⟨"a.ets", [page]⟩, ⟨"test.ets", [page]⟩])
                overlapping true)
              .fresh
            = (.ok found, after)
          ∧ found.records.map (fun record => (record.kind, record.hasImplementation))
            = [(.component, true)] := by
  have obliging := Host.willing_denies_nothing
  have texts : overlapping.PatternsAreTexts := Catalog.standard_texts
  obtain ⟨found, after, role, emitted, done, records, told, emits, -⟩ :=
    identify_exact obliging (.ofFiles [⟨"a.ets", [page]⟩, ⟨"test.ets", [page]⟩]) texts true .fresh
  have shown : role page = .uiComponent := Except.ok.inj (told page .fresh).symm
  have given : emitted page = recordIn overlapping page (kindsOf overlapping .uiComponent) := by
    funext method
    have emitted := emits page method
    rw [shown] at emitted
    exact emitted.unique (recordIn_emits overlapping .uiComponent page method)
  have walked
      : ((Program.ofFiles [⟨"a.ets", [page]⟩, ⟨"test.ets", [page]⟩]).files.filter fun file =>
          ¬ LeftOut true file)
        = [⟨"a.ets", [page]⟩] :=
    rfl
  have kept : ([page].filter fun decl => Handwritten overlapping decl) = [page] := rfl
  refine ⟨obliging, texts, found, after, done, ?_⟩
  simp only [records, walked, kept, List.flatMap_cons, List.flatMap_nil, List.append_nil, given]
  rfl

end Identification

end ArkLifecycle
