import AlertRouter.Proofs.Text.Trim

/-! # Digits at the front of a text

Digits are told from what follows them if that does not begin with one (`Undigited`), as after any
run of characters (`List.takeWhile_append_of_head?`). -/

namespace AlertRouter.Text

variable {c : Char} {cs : List Char}

/-- No digit at the front. -/
def Undigited (cs : List Char) : Prop := ∀ c ∈ cs.head?, c.isDigit = false

theorem Undigited.of_cons (h : c.isDigit = false) : Undigited (c :: cs) := by
  rintro _ ⟨⟩
  exact h

theorem Undigited.take (h : Undigited cs) (n : Nat) : Undigited (cs.take n) := by
  cases n with
  | zero => nofun
  | succ n =>
      cases cs with
      | nil => nofun
      | cons c cs => exact .of_cons (h c rfl)

/-- No digit is a blank. -/
theorem Flush.of_isDigit (h : c.isDigit = true) : Flush (c :: cs) := by
  refine .of_cons ?_
  simp only [Char.isDigit, ge_iff_le, Bool.and_eq_true, decide_eq_true_eq, UInt32.le_iff_toNat_le]
    at h
  have hlow : 48 ≤ c.toNat := h.1
  have hhigh : c.toNat ≤ 57 := h.2
  simp [Unicode.isBlank]
  omega

end AlertRouter.Text
