import AlertRouter.Label.Fingerprint
import Mathlib.Data.Nat.Digits.Defs

/-! # The text form keeps the order of fingerprints

Fingerprints are numbers of 64 bits, and their text form has all sixteen hexadecimal digits
(`toList_text`).  Texts of one length with larger digits further in the front are larger, so the
texts are in the order of the numbers (`compare_text`). -/

namespace AlertRouter.Fingerprint

/-! ### Digits -/

/-- Digits of any base, read from the front. -/
theorem foldl_eq_ofDigits (b : Nat) (vs : List Nat) :
    vs.foldl (fun n v => b * n + v) 0 = Nat.ofDigits b vs.reverse := by
  rw [Nat.ofDigits_eq_foldr, List.foldr_reverse]
  simp only [Nat.cast_id, Nat.add_comm]

/-- The last `k` hexadecimal digits of a number, the first one first. -/
def lastDigits : Nat → Nat → List Char
  | 0, _ => []
  | k + 1, n => lastDigits k (n / 16) ++ [Nat.digitChar (n % 16)]

@[simp]
theorem length_lastDigits (k n : Nat) : (lastDigits k n).length = k := by
  induction k generalizing n with
  | zero => rfl
  | succ k ih => rw [lastDigits, List.length_append, ih, List.length_singleton]

theorem lastDigits_zero (k : Nat) : lastDigits k 0 = List.replicate k '0' := by
  induction k with
  | zero => rfl
  | succ k ih =>
      rw [lastDigits, Nat.zero_div, ih, List.replicate_succ']
      rfl

/-- Zeros in front of the digits of a number. -/
theorem replicate_append_toDigits {k n : Nat} (hn : n < 16 ^ (k + 1)) :
    List.replicate (k + 1 - (Nat.toDigits 16 n).length) '0' ++ Nat.toDigits 16 n =
      lastDigits (k + 1) n := by
  induction k generalizing n with
  | zero =>
      rw [Nat.toDigits_of_lt_base (by omega), lastDigits, Nat.mod_eq_of_lt (by omega)]
      rfl
  | succ k ih =>
      rw [Nat.toDigits_eq_if (by decide), lastDigits]
      split
      · next hlt =>
          rw [Nat.div_eq_of_lt hlt, Nat.mod_eq_of_lt hlt, lastDigits_zero]
          rfl
      · rw [← ih (Nat.div_lt_of_lt_mul (by rw [Nat.pow_succ] at hn; omega)), List.append_assoc,
          List.length_append, List.length_singleton, Nat.add_sub_add_right]

theorem toNat_bits_lt (f : Fingerprint) : f.bits.toNat < 16 ^ 16 :=
  Nat.lt_of_lt_of_eq f.bits.toNat_lt (by decide)

theorem toList_text (f : Fingerprint) : f.text.toList = lastDigits 16 f.bits.toNat := by
  rw [text, String.toList_ofList, ← replicate_append_toDigits (k := 15) f.toNat_bits_lt]

/-! ### Order -/

/-- What follows does not matter if the texts differ before. -/
theorem append_lt_append {cs ds : List Char} (h : cs < ds) (hlength : cs.length = ds.length)
    (xs ys : List Char) : cs ++ xs < ds ++ ys := by
  induction cs generalizing ds with
  | nil =>
      rw [List.length_eq_zero_iff.mp hlength.symm] at h
      exact absurd h (List.not_lt_nil [])
  | cons c cs ih =>
      obtain ⟨d, ds, rfl⟩ := List.exists_cons_of_length_eq_add_one hlength.symm
      rw [List.cons_append, List.cons_append, List.cons_lt_cons_iff]
      rcases List.cons_lt_cons_iff.mp h with hlt | ⟨rfl, hlt⟩
      · exact .inl hlt
      · exact .inr ⟨rfl, ih hlt (Nat.succ.inj hlength)⟩

theorem digitChar_lt_digitChar {m n : Nat} (h : m < n) (hn : n < 16) :
    Nat.digitChar m < Nat.digitChar n :=
  (by decide : ∀ n < 16, ∀ m < n, Nat.digitChar m < Nat.digitChar n) n hn m h

theorem lastDigits_lt_lastDigits {k m n : Nat} (h : m < n) (hn : n < 16 ^ k) :
    lastDigits k m < lastDigits k n := by
  induction k generalizing m n with
  | zero => omega
  | succ k ih =>
      rw [lastDigits, lastDigits]
      by_cases hdiv : m / 16 < n / 16
      · have hlt := ih hdiv (Nat.div_lt_of_lt_mul (by rw [Nat.pow_succ] at hn; omega))
        exact append_lt_append hlt (by simp) _ _
      · rw [show m / 16 = n / 16 by omega]
        refine List.append_left_lt (List.cons_lt_cons_iff.mpr (.inl ?_))
        exact digitChar_lt_digitChar (by omega) (Nat.mod_lt n (by decide))

theorem text_lt_text {f g : Fingerprint} (h : f.bits < g.bits) : f.text < g.text := by
  rw [String.lt_iff, toList_text, toList_text]
  exact lastDigits_lt_lastDigits (UInt64.lt_iff_toNat_lt.mp h) g.toNat_bits_lt

theorem compare_eq_lt_iff {f g : Fingerprint} : compare f g = .lt ↔ f.bits < g.bits := by
  rw [compare_eq]
  exact Std.compare_eq_lt

theorem compare_string_eq_lt_iff {s t : String} : compare s t = .lt ↔ s < t := by
  show compareOfLessAndEq s t = .lt ↔ s < t
  exact compareOfLessAndEq_eq_lt

theorem compare_text_eq_lt {f g : Fingerprint} (h : compare f g = .lt) :
    compare f.text g.text = .lt := by
  rw [compare_string_eq_lt_iff]
  exact text_lt_text (compare_eq_lt_iff.mp h)

/-- Texts and fingerprints compare in the same way. -/
theorem compare_text (f g : Fingerprint) : compare f.text g.text = compare f g := by
  cases h : compare f g with
  | lt => exact compare_text_eq_lt h
  | eq =>
      rw [Std.LawfulEqCmp.eq_of_compare h]
      exact Std.ReflCmp.compare_self
  | gt => exact Std.OrientedCmp.gt_of_lt (compare_text_eq_lt (Std.OrientedCmp.lt_of_gt h))

theorem text_lt_text_iff {f g : Fingerprint} : f.text < g.text ↔ f.bits < g.bits := by
  rw [← compare_eq_lt_iff, ← compare_text, compare_string_eq_lt_iff]

end AlertRouter.Fingerprint
