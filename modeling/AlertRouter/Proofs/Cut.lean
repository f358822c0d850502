import Mathlib.Data.List.TakeWhile

/-! # Where a list is cut

Members with a property at the front of a list end where the first one without it comes, so a list
is such a run and a rest in one way (`List.append_inj_of_head?`).  In particular the first
occurrence of a member divides a list in one way, and so does the last one
(`List.append_cons_inj_of_notMem_left` and `List.append_cons_inj_of_notMem_right`). -/

namespace List

variable {α : Type} {p : α → Bool} {a : α} {l r l' r' : List α}

theorem takeWhile_append_of_head? (hl : ∀ a ∈ l, p a = true) (hr : ∀ a ∈ r.head?, p a = false) :
    (l ++ r).takeWhile p = l := by
  rw [takeWhile_append_of_pos hl]
  cases r with
  | nil => exact append_nil l
  | cons a r => rw [takeWhile_cons_of_neg (by simp [hr a rfl]), append_nil]

theorem dropWhile_append_of_head? (hl : ∀ a ∈ l, p a = true) (hr : ∀ a ∈ r.head?, p a = false) :
    (l ++ r).dropWhile p = r := by
  rw [dropWhile_append_of_pos hl]
  cases r with
  | nil => rfl
  | cons a r => exact dropWhile_cons_of_neg (by simp [hr a rfl])

/-- The rest does not go on with the run, so the run is all of it. -/
theorem append_inj_of_head? (h : l ++ r = l' ++ r')
    (hl : ∀ a ∈ l, p a = true) (hr : ∀ a ∈ r.head?, p a = false)
    (hl' : ∀ a ∈ l', p a = true) (hr' : ∀ a ∈ r'.head?, p a = false) : l = l' ∧ r = r' := by
  constructor
  · rw [← takeWhile_append_of_head? hl hr, h, takeWhile_append_of_head? hl' hr']
  · rw [← dropWhile_append_of_head? hl hr, h, dropWhile_append_of_head? hl' hr']

section Divider

variable [DecidableEq α]

/-- The first `a` divides a list in one way. -/
theorem append_cons_inj_of_notMem_left (hl : a ∉ l) (hl' : a ∉ l')
    (h : l ++ a :: r = l' ++ a :: r') : l = l' ∧ r = r' := by
  have hother {l : List α} (hl : a ∉ l) : ∀ b ∈ l, (b != a) = true :=
    fun b hb => bne_iff_ne.mpr (ne_of_mem_of_not_mem hb hl)
  have hself {r : List α} : ∀ b ∈ (a :: r).head?, (b != a) = false := by
    rintro _ ⟨⟩
    exact bne_self_eq_false a
  obtain ⟨hfront, hrest⟩ := append_inj_of_head? h (hother hl) hself (hother hl') hself
  exact ⟨hfront, (cons.inj hrest).2⟩

/-- The last `a` divides a list in one way. -/
theorem append_cons_inj_of_notMem_right (hr : a ∉ r) (hr' : a ∉ r')
    (h : l ++ a :: r = l' ++ a :: r') : l = l' ∧ r = r' := by
  have hreverse : r.reverse ++ a :: l.reverse = r'.reverse ++ a :: l'.reverse := by
    simpa using congrArg reverse h
  obtain ⟨hrest, hfront⟩ := append_cons_inj_of_notMem_left (by simpa using hr)
    (by simpa using hr') hreverse
  exact ⟨reverse_inj.mp hfront, reverse_inj.mp hrest⟩

end Divider

end List
