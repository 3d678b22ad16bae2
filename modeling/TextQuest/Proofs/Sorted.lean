import Mathlib.Data.List.Sort
import TextQuest.Sorted

namespace TextQuest

variable {α : Type} [LT α] [DecidableLT α] [DecidableEq α] [IsStrictTotalOrder α (· < ·)]

omit [DecidableLT α] in
theorem pairwise_dropRepeats {items : List α} (sorted : items.Pairwise fun a b => ¬ b < a) :
    (dropRepeats items).Pairwise (· < ·) := by
  fun_induction dropRepeats items with
  | case1 a rest ih => exact ih (List.pairwise_cons.mp sorted).2
  | case2 a b rest other ih =>
    obtain ⟨first, sorted⟩ := List.pairwise_cons.mp sorted
    have before : a < b := by
      rcases trichotomous_of (· < ·) a b with less | same | more
      · exact less
      · contradiction
      · exact absurd more (first b (by simp))
    refine List.pairwise_cons.mpr ⟨fun c member => ?_, ih sorted⟩
    rcases List.mem_cons.mp (mem_dropRepeats.mp member) with rfl | later
    · exact before
    · have notLess := (List.pairwise_cons.mp sorted).1 c later
      rcases trichotomous_of (· < ·) b c with less | rfl | more
      · exact trans_of (· < ·) before less
      · exact before
      · exact absurd more notLess
  | case3 items short =>
    cases items with
    | nil => simp
    | cons a rest =>
      cases rest with
      | nil => simp
      | cons b rest => exact absurd rfl (short a b rest)

theorem pairwise_sortedOnce (items : List α) : (sortedOnce items).Pairwise (· < ·) := by
  refine pairwise_dropRepeats ?_
  have sorted : (items.mergeSort fun a b => !decide (b < a)).Pairwise fun a b => !decide (b < a) :=
    List.pairwise_mergeSort ?_ ?_ items
  · exact sorted.imp fun notLess => by simpa using notLess
  · intro a b c first second
    simp only [Bool.not_eq_true', decide_eq_false_iff_not] at first second ⊢
    intro less
    rcases trichotomous_of (· < ·) b c with before | rfl | after
    · exact first (trans_of (· < ·) before less)
    · exact first less
    · exact second after
  · intro a b
    simp only [Bool.or_eq_true, Bool.not_eq_true', decide_eq_false_iff_not]
    by_cases less : b < a
    · exact .inr fun more => irrefl_of (· < ·) a (trans_of (· < ·) more less)
    · exact .inl less

theorem sortedOnce_congr {items others : List α} (same : ∀ a, a ∈ items ↔ a ∈ others) :
    sortedOnce items = sortedOnce others :=
  (pairwise_sortedOnce items).eq_of_mem_iff (pairwise_sortedOnce others) (by simpa using same)

end TextQuest
