import ArkLifecycle.Proofs.Coverage.Tally
import Mathlib.Data.List.Induction

/-! Rankings.

A ranking puts the greatest counts first and keeps the order of items with equal counts. Where the
items stood in the order of some places before, their places decide between equal counts: those of
first appearances in a history, or those in a list of names.
-/

namespace ArkLifecycle

-----------------------------------------------------------------------------------------
-- Sorting by counts
-----------------------------------------------------------------------------------------

section Ranking

variable {α β : Type} {count place : α → Nat} {items : List α}

/-- The items stand by falling counts, and those of equal counts by their places. -/
def Ranks (count place : α → Nat) (items : List α) : Prop :=
  items.Pairwise fun left right =>
    count right < count left ∨ count right = count left ∧ place left < place right

theorem counts_trans (count : α → Nat) (first second third : α)
    (left : decide (count second ≤ count first) = true)
    (right : decide (count third ≤ count second) = true)
    : decide (count third ≤ count first) = true := by
  simp only [decide_eq_true_eq] at left right ⊢
  omega

theorem counts_total (count : α → Nat) (left right : α)
    : (decide (count right ≤ count left) || decide (count left ≤ count right)) = true := by
  simp only [Bool.or_eq_true, decide_eq_true_eq]
  omega

/-- Items of one count keep their order.
Witness: they are in order for the sorting, so it keeps them where they are, and it adds no others.
-/
theorem filter_rankBy (count : α → Nat) (items : List α) (number : Nat)
    : (rankBy count items).filter (count · = number) = items.filter (count · = number) := by
  have level
      : (items.filter (count · = number)).Pairwise fun left right =>
          decide (count right ≤ count left) = true := by
    rw [List.pairwise_filter]
    refine List.pairwise_of_forall fun left right here there => ?_
    simp only [decide_eq_true_eq] at here there ⊢
    omega
  have kept : (items.filter (count · = number)).Sublist (rankBy count items) :=
    List.sublist_mergeSort (counts_trans count) (counts_total count) level List.filter_sublist
  have inside := kept.filter (count · = number)
  rw [List.filter_filter] at inside
  simp only [Bool.and_self] at inside
  exact (inside.eq_of_length ((rankBy_perm count items).filter _).length_eq.symm).symm

/-- Items that stood by their places are ranked.
Witness: of two items of one count, the one that comes first came first before.
-/
theorem rankBy_ranks (ordered : items.Pairwise fun left right => place left < place right)
    : Ranks count place (rankBy count items) := by
  rw [Ranks, List.pairwise_iff_forall_sublist]
  intro left right inside
  have falling : count right ≤ count left := by
    have sorted := List.pairwise_mergeSort (counts_trans count) (counts_total count) items
    simpa using List.pairwise_iff_forall_sublist.mp sorted inside
  rcases Nat.lt_or_eq_of_le falling with fewer | equal
  · exact Or.inl fewer
  · have together := inside.filter (count · = count left)
    rw [filter_rankBy, List.filter_cons_of_pos (by simp), List.filter_cons_of_pos (by simp [equal])]
      at together
    have before := together.trans List.filter_sublist
    exact Or.inr ⟨equal, List.pairwise_iff_forall_sublist.mp ordered before⟩

/-- What is made from the items is ranked as they are. -/
theorem map_rankBy (f : α → β) (count : β → Nat) (items : List α)
    : (rankBy (fun item => count (f item)) items).map f = rankBy count (items.map f) :=
  List.map_mergeSort fun _ _ _ _ => rfl

end Ranking

-----------------------------------------------------------------------------------------
-- Places
-----------------------------------------------------------------------------------------

section Places

variable {α β : Type} [BEq α] [LawfulBEq α]

/-- Names that do not repeat stand by their places. -/
theorem pairwise_idxOf_of_nodup {names : List α} (once : names.Nodup)
    : names.Pairwise fun left right => names.idxOf left < names.idxOf right := by
  rw [List.pairwise_iff_getElem]
  intro first second inside also before
  rwa [once.idxOf_getElem, once.idxOf_getElem]

/-- The keys of a history, without repetitions, stand by their first appearances.
Witness: induction over the history from its end; a new key first appears at the last place.
-/
theorem pairwise_findIdx_eraseDups [DecidableEq α] (key : β → Option α) (history : List β)
    : (history.filterMap key).eraseDups.Pairwise fun left right =>
        history.findIdx (key · = some left) < history.findIdx (key · = some right) := by
  induction history using List.reverseRecOn with
  | nil => simp
  | append_singleton history last ih =>
      have found {name : α} (member : name ∈ (history.filterMap key).eraseDups)
          : history.findIdx (key · = some name) < history.length := by
        obtain ⟨item, inside, named⟩ := List.mem_filterMap.mp (List.mem_eraseDups.mp member)
        exact List.findIdx_lt_length_of_exists ⟨item, inside, decide_eq_true named⟩
      have earlier
          : (history.filterMap key).eraseDups.Pairwise fun left right =>
              (history ++ [last]).findIdx (key · = some left)
                < (history ++ [last]).findIdx (key · = some right) := by
        refine ih.imp_of_mem fun {left right} here there before => ?_
        rwa [List.findIdx_append, if_pos (found here), List.findIdx_append, if_pos (found there)]
      rw [List.filterMap_append]
      cases named : key last with
      | none => simpa [named] using earlier
      | some name =>
          simp only [List.filterMap_cons, named, List.filterMap_nil]
          rw [eraseDups_concat]
          split
          · exact earlier
          · next fresh =>
              refine List.pairwise_append.mpr ⟨earlier, List.pairwise_singleton _ _, ?_⟩
              intro other member new same
              rw [List.mem_singleton.mp same, List.findIdx_append, if_pos (found member),
                List.findIdx_append, if_neg]
              · exact Nat.lt_add_left _ (found member)
              · rw [List.findIdx_lt_length]
                rintro ⟨item, inside, this⟩
                exact fresh (List.mem_filterMap.mpr ⟨item, inside, of_decide_eq_true this⟩)

end Places

end ArkLifecycle
