import ArkLifecycle.Proofs.Identification.CatalogGrowth
import Mathlib.Data.List.Forall2

/-! What becomes of the records of a catalog when it is extended, its ability bases apart.

With the ability bases and the patterns of generated classes as they are, every class keeps the role
it has, and a class without one can only become a UI component. So every method keeps its record, in
the same order. Only the kind of a record can change: to one that takes precedence, among the kinds
of the same role.
-/

namespace ArkLifecycle

open Activity Classification

/-- One catalog extends another one: names, component bases and markers may be added, while the
ability bases and the patterns of generated classes are the same.
-/
structure Catalog.ExtendedBy (small large : Catalog) : Prop where
  names : ∀ kind, small.names kind ⊆ large.names kind
  componentBases : small.componentBases ⊆ large.componentBases
  markers : small.markers ⊆ large.markers
  abilityBases : ∀ base, base ∈ small.abilityBases ↔ base ∈ large.abilityBases
  patterns
    : ∀ pattern, pattern ∈ small.syntheticPatterns ↔ pattern ∈ large.syntheticPatterns

/-- The other record is about the same method of the same class, and says the same of it. Its kind
belongs to the same role and does not come later in the order of precedence.
-/
structure Record.PromotedTo (record other : Record) : Prop where
  same : other = { record with kind := other.kind }
  role : other.kind.role = record.kind.role
  earlier : Kind.all.idxOf other.kind ≤ Kind.all.idxOf record.kind

/-- Where every item that is chosen from a list is matched by one that is chosen at the same place,
the items of the first choice match some of the second one, in order.
Witness: induction over the list.
-/
theorem sublistForall₂_filterMap {α β γ : Type} {related : β → γ → Prop} {items : List α}
    {first : α → Option β} {second : α → Option γ}
    (matched : ∀ item ∈ items, ∀ given ∈ first item, ∃ other ∈ second item, related given other)
    : List.SublistForall₂ related (items.filterMap first) (items.filterMap second) := by
  induction items with
  | nil => exact .nil
  | cons item rest ih =>
      have later := ih fun item member => matched item (List.mem_cons_of_mem _ member)
      rw [List.filterMap_cons, List.filterMap_cons]
      cases chosen : first item with
      | none =>
          cases second item with
          | none => exact later
          | some other => exact later.cons_right
      | some given =>
          obtain ⟨other, same, similar⟩ := matched item List.mem_cons_self given chosen
          rw [Option.mem_def.mp same]
          exact .cons similar later

namespace Identification

section Extension

variable {small large : Catalog} (extended : small.ExtendedBy large)

include extended

theorem isGenerated_extended (decl : ClassDecl)
    : isGenerated large decl = isGenerated small decl := by
  rw [isGenerated, isGenerated, Bool.eq_iff_iff, List.any_eq_true, List.any_eq_true]
  simp only [extended.patterns]

theorem declarations_extended (skipTests : Bool) (files : List SourceFile)
    : declarations large skipTests files = declarations small skipTests files := by
  simp only [declarations, examined, isGenerated_extended extended]

theorem descendsFrom_extended (program : Program) (decl : ClassDecl)
    : descendsFrom large.abilityBases program decl
      = descendsFrom small.abilityBases program decl := by
  rw [Bool.eq_iff_iff]
  constructor
  · exact descendsFrom_more fun base => (extended.abilityBases base).mpr
  · exact descendsFrom_more fun base => (extended.abilityBases base).mp

/-- A class that has a role keeps it.
Witness: only the order of the patterns may differ, which no role depends on.
-/
theorem roleIn_extended {program : Program} {decl : ClassDecl}
    (given : roleIn program small decl ≠ .none)
    : roleIn program large decl = roleIn program small decl := by
  let ordered : Catalog := { small with syntheticPatterns := large.syntheticPatterns }
  have within : ordered.Within large :=
    ⟨extended.names, extended.componentBases, extended.markers, rfl⟩
  have alike : roleIn program ordered decl = roleIn program small decl := by
    have generated : isGenerated ordered decl = isGenerated small decl :=
      isGenerated_extended extended decl
    rw [roleIn, roleIn, generated]
    rfl
  rw [← alike] at given ⊢
  exact roleIn_within within (descendsFrom_extended extended program decl) given

/-- A method keeps its record, of the same or an earlier kind.
Witness: the kind of the record still lists the name, so the first kind that does comes no later.
-/
theorem recordAt_extended {program : Program} {declared : ClassDecl × Method} {record : Record}
    (given : recordAt program small declared = some record)
    : ∃ other, recordAt program large declared = some other ∧ record.PromotedTo other := by
  have before := recordIn_emits small (roleIn program small declared.1) declared.1 declared.2
  have after := recordIn_emits large (roleIn program large declared.1) declared.1 declared.2
  unfold recordAt at given ⊢
  rw [given] at before
  cases before with
  | @record kind implemented listed first body =>
      have owned : roleIn program small declared.1 ≠ .none := by
        rw [← listed.1]
        cases kind <;> simp [Kind.role]
      have kept := roleIn_extended extended owned
      rw [kept] at after ⊢
      have still : Lists large (roleIn program small declared.1) declared.2.name kind :=
        ⟨listed.1, extended.names kind listed.2⟩
      generalize recordIn large declared.1 _ declared.2 = emitted at after ⊢
      cases after with
      | @record earlier implemented' listed' first' body' =>
          have both : implemented' = implemented := by
            rw [Bool.eq_iff_iff, body, body']
          refine ⟨_, rfl, ?_, listed'.1.trans listed.1.symm, first' kind still⟩
          rw [both]
      | nothing unlisted => exact absurd still (unlisted kind)

end Extension

/-- For an obliging host the records of a catalog are some of those of a catalog that extends it, in
the same order; the kind of a record may only be promoted.
Witness: both identifications look at the same methods, and each of them keeps its record.
-/
theorem identify_extended {host : Host} (obliging : host.Obliging) (program : Program)
    {small large : Catalog} (extended : small.ExtendedBy large)
    (texts : large.PatternsAreTexts) (skipTests : Bool) (before other : Session)
    : ∃ found more after later,
        outcome (identify host program small skipTests) before = (.ok found, after)
        ∧ outcome (identify host program large skipTests) other = (.ok more, later)
        ∧ List.SublistForall₂ Record.PromotedTo found.records more.records := by
  have written : small.PatternsAreTexts := fun pattern member =>
    texts pattern ((extended.patterns pattern).mp member)
  obtain ⟨found, after, done, few⟩ :=
    identify_declarations obliging program written skipTests before
  obtain ⟨more, later, again, many⟩ :=
    identify_declarations obliging program texts skipTests other
  refine ⟨found, more, after, later, done, again, ?_⟩
  rw [few, many, declarations_extended extended]
  exact sublistForall₂_filterMap fun declared _ record given => recordAt_extended extended given

/-- (eventsOnly) lists one name, and that one among the callbacks of UI events. -/
def eventsOnly : Catalog :=
  { overlapping with
    names := fun kind =>
      match kind with
      | .ability | .component => []
      | .callback => [.text "onShow"] }

/-- The catalog that lists the name among two kinds extends the one that lists it among the later
one. The record of the page is promoted.
-/
theorem identify_extended_overlapping
    : Host.willing.Obliging
      ∧ eventsOnly.ExtendedBy overlapping
      ∧ overlapping.PatternsAreTexts
      ∧ ∃ found more,
          (outcome (identify .willing (.ofFiles [⟨"a.ets", [page]⟩]) eventsOnly true)
              .fresh).1
            = .ok found
          ∧ (outcome (identify .willing (.ofFiles [⟨"a.ets", [page]⟩]) overlapping true)
              .fresh).1
            = .ok more
          ∧ List.SublistForall₂ Record.PromotedTo found.records more.records
          ∧ found.records.map Record.kind = [.callback]
          ∧ more.records.map Record.kind = [.component] := by
  have obliging := Host.willing_denies_nothing
  have texts : overlapping.PatternsAreTexts := Catalog.standard_texts
  have extended : eventsOnly.ExtendedBy overlapping := by
    refine ⟨fun kind => ?_, .refl _, .refl _, fun _ => .rfl, fun _ => .rfl⟩
    cases kind <;> simp [eventsOnly, overlapping]
  obtain ⟨found, more, after, later, done, again, promoted⟩ :=
    identify_extended obliging (.ofFiles [⟨"a.ets", [page]⟩]) extended texts true .fresh .fresh
  have few : (outcome (identify .willing (.ofFiles [⟨"a.ets", [page]⟩]) eventsOnly true)
      .fresh).1.map (fun found => found.records.map Record.kind) = .ok [.callback] := by rfl
  have many : (outcome (identify .willing (.ofFiles [⟨"a.ets", [page]⟩]) overlapping true)
      .fresh).1.map (fun found => found.records.map Record.kind) = .ok [.component] := by rfl
  rw [done] at few
  rw [again] at many
  exact ⟨obliging, extended, texts, found, more, by rw [done], by rw [again], promoted,
    Except.ok.inj few, Except.ok.inj many⟩

end Identification

end ArkLifecycle
