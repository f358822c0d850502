import AlertRouter.Proofs.Cut

/-! # Sorting by a key

Sorting is stable: members of equal rank keep their order.  So it makes no difference whether some
members are left out before or after a list is sorted (`List.filter_mergeSort`).

A list is sorted by comparing keys of its members.  `compare_ne_gt_trans` and `compare_ne_gt_total`
say that such a comparison is one to sort by. -/

namespace AlertRouter

section Comparison

variable {α κ : Type} [Ord κ] (key : α → κ)

theorem compare_ne_gt_iff {a b : α} :
    (compare (key a) (key b) != .gt) = true ↔ (compare (key a) (key b)).isLE = true := by
  rw [bne_iff_ne, ne_eq, Ordering.ne_gt_iff_isLE]

variable [Std.TransOrd κ]

theorem compare_ne_gt_trans (a b c : α) (hab : (compare (key a) (key b) != .gt) = true)
    (hbc : (compare (key b) (key c) != .gt) = true) :
    (compare (key a) (key c) != .gt) = true := by
  rw [compare_ne_gt_iff] at hab hbc ⊢
  exact Std.TransCmp.isLE_trans hab hbc

theorem compare_ne_gt_total (a b : α) :
    (compare (key a) (key b) != .gt || compare (key b) (key a) != .gt) = true := by
  rw [Bool.or_eq_true, compare_ne_gt_iff, compare_ne_gt_iff]
  by_cases h : (compare (key a) (key b)).isLE = true
  · exact .inl h
  · exact .inr (Ordering.isLE_of_eq_lt (Std.OrientedCmp.lt_of_not_isLE h))

end Comparison

end AlertRouter

namespace List

variable {α : Type} {le : α → α → Bool}

/-- What is left of a sorted list is what is left of the list, sorted. -/
theorem filter_mergeSort (htrans : ∀ a b c, le a b = true → le b c = true → le a c = true)
    (htotal : ∀ a b, (le a b || le b a) = true) (p : α → Bool) (l : List α) :
    (l.mergeSort le).filter p = (l.filter p).mergeSort le := by
  induction l with
  | nil => simp
  | cons a l ih =>
      obtain ⟨l₁, l₂, hsort, hrest, hbefore⟩ := mergeSort_cons htrans htotal a l
      rw [hrest, filter_append] at ih
      by_cases ha : p a = true
      · -- Where `a` is put is determined: after the members that it does not come before.
        obtain ⟨l₁', l₂', hsort', hrest', hbefore'⟩ :=
          mergeSort_cons htrans htotal a (l.filter p)
        have hafter : ∀ b ∈ l₂, le a b = true := by
          have hsorted := pairwise_mergeSort htrans htotal (a :: l)
          rw [hsort, pairwise_append, pairwise_cons] at hsorted
          exact hsorted.2.1.1
        have hafter' : ∀ b ∈ l₂', le a b = true := by
          have hsorted := pairwise_mergeSort htrans htotal (a :: l.filter p)
          rw [hsort', pairwise_append, pairwise_cons] at hsorted
          exact hsorted.2.1.1
        obtain ⟨h₁, h₂⟩ := append_inj_of_head? (p := fun b => !le a b) (ih.trans hrest')
          (fun b hb => hbefore b (mem_filter.mp hb).1)
          (fun b hb => by simpa using hafter b (mem_filter.mp (mem_of_mem_head? hb)).1)
          hbefore' (fun b hb => by simpa using hafter' b (mem_of_mem_head? hb))
        rw [filter_cons_of_pos ha, hsort, hsort', filter_append, filter_cons_of_pos ha, h₁, h₂]
      · rw [filter_cons_of_neg ha, hsort, filter_append, filter_cons_of_neg ha, ih]

end List
