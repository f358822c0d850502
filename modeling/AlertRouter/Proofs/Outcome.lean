/-! # Computations that may fail

A sequence of checks succeeds if each of them does.  The lemmas here take such a sequence apart, one
for each way in which checks are put together: `Except.bind_eq_ok_iff` for one after another,
`Except.map_eq_ok_iff` for a result that is changed, `Except.mapError_eq_ok_iff` for an error that
is reworded, `Except.mapM_eq_ok_iff` and `Except.forM_eq_ok_iff` for the same check on each member
of a list, whose error is that of the first member with one (`Except.forM_eq_error_iff`). -/

namespace Except

variable {ε ε' α β : Type}

@[simp] theorem bind_def (c : Except ε α) (k : α → Except ε β) : c >>= k = c.bind k := rfl

@[simp] theorem pure_def (a : α) : (pure a : Except ε α) = .ok a := rfl

@[simp] theorem throw_def (e : ε) : (throw e : Except ε α) = .error e := rfl

@[simp] theorem ok_bind (a : α) (k : α → Except ε β) : (Except.ok a).bind k = k a := rfl

@[simp] theorem error_bind (e : ε) (k : α → Except ε β) : (Except.error e).bind k = .error e := rfl

theorem ok_map (a : α) (g : α → β) : (Except.ok a : Except ε α).map g = .ok (g a) := rfl

/-- Changing the result of one check after another changes that of the last one. -/
theorem bind_map {γ : Type} (c : Except ε α) (k : α → Except ε β) (g : β → γ) :
    (c.bind k).map g = c.bind fun a => (k a).map g := by
  cases c with
  | error e => rfl
  | ok a => rfl

@[simp] theorem bind_eq_ok_iff {c : Except ε α} {k : α → Except ε β} {b : β} :
    c.bind k = .ok b ↔ ∃ a, c = .ok a ∧ k a = .ok b := by
  cases c with
  | error e => simp
  | ok a => simp

@[simp] theorem map_eq_ok_iff {c : Except ε α} {g : α → β} {b : β} :
    c.map g = .ok b ↔ ∃ a, c = .ok a ∧ g a = b := by
  cases c with
  | error e => simp [Except.map]
  | ok a => simp [Except.map]

@[simp] theorem mapError_eq_ok_iff {c : Except ε α} {g : ε → ε'} {a : α} :
    c.mapError g = .ok a ↔ c = .ok a := by
  cases c with
  | error e =>
      show Except.error (g e) = .ok a ↔ _
      simp
  | ok a' =>
      show Except.ok a' = .ok a ↔ _
      simp

theorem toOption_eq_some_iff {c : Except ε α} {a : α} : c.toOption = some a ↔ c = .ok a := by
  cases c with
  | error e => simp [Except.toOption]
  | ok a' => simp [Except.toOption]

/-- A check that is passed unless `p` holds. -/
@[simp] theorem ite_error_eq_ok_iff {p : Prop} [Decidable p] {e : ε} {c : Except ε α} {a : α} :
    (if p then .error e else c) = .ok a ↔ ¬ p ∧ c = .ok a := by
  by_cases h : p
  · simp [h]
  · simp [h]

theorem mapM_eq_ok_iff {f : α → Except ε β} {l : List α} {l' : List β} :
    l.mapM f = .ok l' ↔ l.map f = l'.map .ok := by
  induction l generalizing l' with
  | nil => simp [eq_comm]
  | cons a l ih =>
      simp only [List.mapM_cons, bind_def, pure_def, bind_eq_ok_iff, ih, ok.injEq, List.map_cons]
      constructor
      · rintro ⟨b, hb, bs, hbs, rfl⟩
        rw [hb, hbs, List.map_cons]
      · intro h
        cases l' with
        | nil => cases h
        | cons b bs =>
            obtain ⟨hb, hbs⟩ := List.cons.inj h
            exact ⟨b, hb, bs, hbs, rfl⟩

theorem forM_eq_ok_iff {f : α → Except ε Unit} {l : List α} :
    l.forM f = .ok () ↔ ∀ a ∈ l, f a = .ok () := by
  induction l with
  | nil => simp
  | cons a l ih =>
      rw [List.forall_mem_cons, ← ih]
      show (f a).bind (fun _ => l.forM f) = .ok () ↔ _
      simp only [bind_eq_ok_iff, exists_and_right]
      constructor
      · rintro ⟨⟨⟨⟩, ha⟩, hl⟩
        exact ⟨ha, hl⟩
      · rintro ⟨ha, hl⟩
        exact ⟨⟨(), ha⟩, hl⟩

theorem forM_eq_error_iff {f : α → Except ε Unit} {l : List α} {e : ε} :
    l.forM f = .error e ↔ ∃ before a after, l = before ++ a :: after ∧
      (∀ b ∈ before, f b = .ok ()) ∧ f a = .error e := by
  induction l with
  | nil => exact ⟨nofun, fun ⟨_, _, _, hl, _⟩ => absurd hl (by simp)⟩
  | cons a l ih =>
      show (f a).bind (fun _ => l.forM f) = .error e ↔ _
      cases ha : f a with
      | error e' =>
          constructor
          · intro h
            exact ⟨[], a, l, rfl, nofun, ha.trans h⟩
          · rintro ⟨before, x, after, hl, hok, hx⟩
            cases before with
            | nil =>
                obtain ⟨rfl, -⟩ := List.cons.inj hl
                exact ha.symm.trans hx
            | cons b before =>
                obtain ⟨rfl, -⟩ := List.cons.inj hl
                exact nomatch ha.symm.trans (hok a List.mem_cons_self)
      | ok u =>
          rw [ok_bind, ih]
          constructor
          · rintro ⟨before, x, after, rfl, hok, hx⟩
            exact ⟨a :: before, x, after, rfl, List.forall_mem_cons.mpr ⟨ha, hok⟩, hx⟩
          · rintro ⟨before, x, after, hl, hok, hx⟩
            cases before with
            | nil =>
                obtain ⟨rfl, -⟩ := List.cons.inj hl
                exact nomatch ha.symm.trans hx
            | cons b before =>
                obtain ⟨rfl, rfl⟩ := List.cons.inj hl
                exact ⟨before, x, after, rfl, (List.forall_mem_cons.mp hok).2, hx⟩

end Except
