import AlertRouter.Text.Trim
import Mathlib.Data.List.TakeWhile

/-! # What trimming leaves

`trim cs` is the one part of `cs` that neither begins nor ends with a blank and has nothing but
blanks before and after it (`trim_eq_iff`). -/

namespace AlertRouter.Text

open Unicode (isBlank)

variable {a b cs ds : List Char}

/-- Nothing but blanks. -/
def Blank (cs : List Char) : Prop := ∀ c ∈ cs, isBlank c = true

/-- No blank at the front. -/
def Flush (cs : List Char) : Prop := ∀ c ∈ cs.head?, isBlank c = false

/-- No blank at either end. -/
structure Trimmed (cs : List Char) : Prop where
  front : Flush cs
  back : Flush cs.reverse

theorem blank_nil : Blank [] := fun _ h => nomatch h

theorem Blank.append (ha : Blank a) (hb : Blank b) : Blank (a ++ b) := by
  intro c hc
  rcases List.mem_append.mp hc with h | h
  · exact ha c h
  · exact hb c h

theorem Blank.reverse (h : Blank cs) : Blank cs.reverse := fun c hc => h c (List.mem_reverse.mp hc)

theorem Flush.of_cons {c : Char} (h : isBlank c = false) : Flush (c :: cs) := by
  rintro _ ⟨⟩
  exact h

/-- What begins a text without a blank in front has none either. -/
theorem Flush.of_append (h : Flush (a ++ b)) : Flush a := by
  cases a with
  | nil => exact fun _ h => nomatch h
  | cons c a => exact .of_cons (h c rfl)

theorem Flush.append (ha : a ≠ []) (h : Flush a) : Flush (a ++ b) := by
  cases a with
  | nil => exact absurd rfl ha
  | cons c a => exact .of_cons (h c rfl)

/-! ### The front -/

theorem flush_trimStart (cs : List Char) : Flush (trimStart cs) := by
  intro c hc
  have h := List.head?_dropWhile_not isBlank cs
  rw [show (cs.dropWhile isBlank).head? = some c from hc] at h
  exact h

theorem exists_append_trimStart (cs : List Char) : ∃ a, Blank a ∧ cs = a ++ trimStart cs :=
  ⟨cs.takeWhile isBlank, fun _ => List.mem_takeWhile_imp, List.takeWhile_append_dropWhile.symm⟩

theorem trimStart_of_flush (h : Flush cs) : trimStart cs = cs := by
  cases cs with
  | nil => rfl
  | cons c cs => exact List.dropWhile_cons_of_neg (by simp [h c rfl])

theorem trimStart_append (ha : Blank a) (h : Flush cs) : trimStart (a ++ cs) = cs :=
  (List.dropWhile_append_of_pos ha).trans (trimStart_of_flush h)

theorem trimStart_of_blank (h : Blank cs) : trimStart cs = [] :=
  List.dropWhile_eq_nil_iff.mpr h

/-! ### Both ends -/

theorem exists_trimEnd_append (cs : List Char) : ∃ b, Blank b ∧ cs = trimEnd cs ++ b := by
  obtain ⟨b, hb, h⟩ := exists_append_trimStart cs.reverse
  refine ⟨b.reverse, hb.reverse, ?_⟩
  calc cs = cs.reverse.reverse := (List.reverse_reverse cs).symm
    _ = (b ++ trimStart cs.reverse).reverse := by rw [← h]
    _ = trimEnd cs ++ b.reverse := List.reverse_append

theorem trimEnd_append (hb : Blank b) (h : Flush cs.reverse) : trimEnd (cs ++ b) = cs := by
  show (trimStart (cs ++ b).reverse).reverse = cs
  rw [List.reverse_append, trimStart_append hb.reverse h, List.reverse_reverse]

theorem trimmed_trim (cs : List Char) : Trimmed (trim cs) := by
  obtain ⟨b, -, h⟩ := exists_trimEnd_append (trimStart cs)
  refine ⟨Flush.of_append (b := b) (h ▸ flush_trimStart cs), ?_⟩
  show Flush (trimStart (trimStart cs).reverse).reverse.reverse
  rw [List.reverse_reverse]
  exact flush_trimStart _

theorem trim_append (ha : Blank a) (h : Trimmed cs) (hb : Blank b) : trim (a ++ cs ++ b) = cs := by
  by_cases hcs : cs = []
  · subst hcs
    show trimEnd (trimStart (a ++ [] ++ b)) = []
    rw [List.append_nil, trimStart_of_blank (ha.append hb)]
    rfl
  · show trimEnd (trimStart (a ++ cs ++ b)) = cs
    rw [List.append_assoc, trimStart_append ha (h.front.append hcs), trimEnd_append hb h.back]

theorem trim_eq_iff :
    trim cs = ds ↔ Trimmed ds ∧ ∃ a b, Blank a ∧ Blank b ∧ cs = a ++ ds ++ b := by
  constructor
  · rintro rfl
    obtain ⟨a, ha, hfront⟩ := exists_append_trimStart cs
    obtain ⟨b, hb, hback⟩ := exists_trimEnd_append (trimStart cs)
    refine ⟨trimmed_trim cs, a, b, ha, hb, ?_⟩
    calc cs = a ++ trimStart cs := hfront
      _ = a ++ (trim cs ++ b) := congrArg (a ++ ·) hback
      _ = a ++ trim cs ++ b := (List.append_assoc ..).symm
  · rintro ⟨h, a, b, ha, hb, rfl⟩
    exact trim_append ha h hb

end AlertRouter.Text
