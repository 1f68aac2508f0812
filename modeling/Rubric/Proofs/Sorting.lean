import Mathlib.Data.List.Nodup

namespace Rubric

variable {α : Type} {key : α → String}

theorem keyOrder_trans (a b c : α) (hab : decide (key a ≤ key b) = true)
    (hbc : decide (key b ≤ key c) = true) : decide (key a ≤ key c) = true :=
  decide_eq_true (String.le_trans (of_decide_eq_true hab) (of_decide_eq_true hbc))

theorem keyOrder_total (a b : α) :
    (decide (key a ≤ key b) || decide (key b ≤ key a)) = true := by
  simpa using String.le_total (key a) (key b)

theorem pairwise_mergeSort_key (key : α → String) (xs : List α) :
    (xs.mergeSort fun a b => decide (key a ≤ key b)).Pairwise (key · ≤ key ·) := by
  have hsorted : (xs.mergeSort fun a b => decide (key a ≤ key b)).Pairwise
      fun a b => decide (key a ≤ key b) = true :=
    List.pairwise_mergeSort keyOrder_trans keyOrder_total xs
  exact hsorted.imp of_decide_eq_true

theorem filter_mergeSort_key (xs : List α) (k : String) :
    (xs.mergeSort fun a b => decide (key a ≤ key b)).filter (key · = k) =
      xs.filter (key · = k) := by
  have hsub : (xs.filter (key · = k)).Sublist
      (xs.mergeSort fun a b => decide (key a ≤ key b)) := by
    apply List.sublist_mergeSort keyOrder_trans keyOrder_total
    · apply List.pairwise_of_forall_mem_list
      intro a ha b hb
      have hka : key a = k := by simpa using (List.mem_filter.1 ha).2
      have hkb : key b = k := by simpa using (List.mem_filter.1 hb).2
      rw [hka, hkb]
      exact decide_eq_true (String.le_refl k)
    · exact List.filter_sublist
  have hperm := (List.mergeSort_perm xs fun a b => decide (key a ≤ key b)).filter (key · = k)
  have hself := hsub.filter (key · = k)
  simp only [List.filter_filter, Bool.and_self] at hself
  exact (hself.eq_of_length hperm.length_eq.symm).symm

theorem mergeSort_key_eq_of_perm {xs ys : List α} (hperm : xs.Perm ys)
    (hantisymm : ∀ a ∈ xs, ∀ b ∈ xs, key a = key b → a = b) :
    (xs.mergeSort fun a b => decide (key a ≤ key b)) =
      ys.mergeSort fun a b => decide (key a ≤ key b) := by
  have hsort (zs : List α) := List.mergeSort_perm zs fun a b => decide (key a ≤ key b)
  apply List.Perm.eq_of_pairwise _ (pairwise_mergeSort_key key xs) (pairwise_mergeSort_key key ys)
    ((hsort xs).trans (hperm.trans (hsort ys).symm))
  intro a b ha hb hab hba
  apply hantisymm a (List.mem_mergeSort.1 ha) b (hperm.mem_iff.2 (List.mem_mergeSort.1 hb))
  exact String.le_antisymm hab hba

end Rubric
