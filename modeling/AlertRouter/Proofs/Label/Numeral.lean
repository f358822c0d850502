import AlertRouter.Proofs.Json.RoundTrip
import AlertRouter.Proofs.Label.Hexadecimal
import Mathlib.Data.List.Forall2

/-! # Texts that denote fingerprints

A numeral has one hexadecimal digit or more, in lower or upper case, and a plus sign may stand in
front of it (`Denotes`).  Reading takes a text if and only if it denotes a number of 64 bits, and
gives this number (`parse_eq_ok_iff`); numerals for greater numbers are refused as too large
(`parse_eq_tooLarge`).  The text of a fingerprint denotes its number (`denotes_text`), so
fingerprints come back from their texts and from their JSON (`text_faithful`). -/

namespace AlertRouter.Fingerprint

variable {c : Char} {cs : List Char} {vs : List Nat} {m n v : Nat} {s : String} {f : Fingerprint}

/-! ### Numerals -/

/-- The digit has the value `v`, in lower or upper case. -/
def IsDigit (c : Char) (v : Nat) : Prop := v < 16 ∧ (c = v.digitChar ∨ c = v.digitChar.toUpper)

instance : Decidable (IsDigit c v) := inferInstanceAs (Decidable (_ ∧ _))

/-- The digits, the most significant one first, write the number in base sixteen. -/
def Numeral (cs : List Char) (n : Nat) : Prop :=
  ∃ vs, List.Forall₂ IsDigit cs vs ∧ n = Nat.ofDigits 16 vs.reverse

/-- The text is a numeral of the number, with or without a plus sign. -/
def Denotes (s : String) (n : Nat) : Prop :=
  ∃ cs, cs ≠ [] ∧ (s.toList = cs ∨ s.toList = '+' :: cs) ∧ Numeral cs n

/-! ### Single digits -/

theorem toNat_lt_of_digitValue? (h : Codec.digitValue? 16 c = some v) : c.toNat < 0x80 := by
  have hle {d : Char} (hd : d.toNat < 0x80) (hc : c ≤ d) : c.toNat < 0x80 :=
    Nat.lt_of_le_of_lt (UInt32.le_iff_toNat_le.mp hc) hd
  obtain ⟨w, hw, -⟩ := Option.bind_eq_some_iff.mp h
  split at hw
  · next hdigit =>
      simp only [Char.isDigit, ge_iff_le, Bool.and_eq_true, decide_eq_true_eq] at hdigit
      exact hle (d := '9') (by decide) hdigit.2
  · split at hw
    · next hlower => exact hle (by decide) hlower.2
    · split at hw
      · next hupper => exact hle (by decide) hupper.2
      · cases hw

theorem isDigit_ofNat : ∀ n < 0x80, ∀ v ∈ Codec.digitValue? 16 (Char.ofNat n),
    IsDigit (Char.ofNat n) v := by
  decide

theorem digitValue?_digitChar : ∀ v < 16, Codec.digitValue? 16 v.digitChar = some v ∧
    Codec.digitValue? 16 v.digitChar.toUpper = some v := by
  decide

theorem digitValue?_eq_some_iff : Codec.digitValue? 16 c = some v ↔ IsDigit c v := by
  constructor
  · intro h
    have hdigit := isDigit_ofNat c.toNat (toNat_lt_of_digitValue? h) v
    rw [Char.ofNat_toNat] at hdigit
    exact hdigit h
  · rintro ⟨hv, rfl | rfl⟩
    · exact (digitValue?_digitChar v hv).1
    · exact (digitValue?_digitChar v hv).2

/-! ### Reading digits -/

/-- The number that digits of these values give after those that gave `n`. -/
def valueAfter (n : Nat) (vs : List Nat) : Nat := vs.foldl (fun n v => 16 * n + v) n

theorem valueAfter_zero (vs : List Nat) : valueAfter 0 vs = Nat.ofDigits 16 vs.reverse :=
  foldl_eq_ofDigits 16 vs

theorem le_valueAfter (n : Nat) (vs : List Nat) : n ≤ valueAfter n vs := by
  induction vs generalizing n with
  | nil => exact Nat.le_refl n
  | cons v vs ih => exact Nat.le_trans (by omega) (ih (16 * n + v))

/-- More digits make the number no smaller, so it is enough to compare after each digit. -/
theorem parseDigits_of_forall₂ (hcs : List.Forall₂ IsDigit cs vs) (hn : n < UInt64.size) :
    parseDigits n cs =
      if valueAfter n vs < UInt64.size then .ok (valueAfter n vs) else .error .tooLarge := by
  induction hcs generalizing n with
  | nil => exact (if_pos hn).symm
  | @cons c v cs vs hc hcs ih =>
      rw [parseDigits, digitValue?_eq_some_iff.mpr hc]
      by_cases hlt : 16 * n + v < UInt64.size
      · exact (if_pos hlt).trans (ih hlt)
      · have hle : ¬ valueAfter n (v :: vs) < UInt64.size := fun h =>
          hlt (Nat.lt_of_le_of_lt (le_valueAfter _ vs) h)
        exact (if_neg hlt).trans (if_neg hle).symm

theorem exists_forall₂_of_parseDigits (h : parseDigits n cs = .ok m) :
    ∃ vs, List.Forall₂ IsDigit cs vs := by
  induction cs generalizing n with
  | nil => exact ⟨[], .nil⟩
  | cons c cs ih =>
      rw [parseDigits] at h
      split at h
      · cases h
      · next v hv =>
          split at h
          · obtain ⟨vs, hvs⟩ := ih h
            exact ⟨v :: vs, .cons (digitValue?_eq_some_iff.mp hv) hvs⟩
          · cases h

theorem parseDigits_eq_ok_iff : parseDigits 0 cs = .ok n ↔ Numeral cs n ∧ n < UInt64.size := by
  constructor
  · intro h
    obtain ⟨vs, hvs⟩ := exists_forall₂_of_parseDigits h
    rw [parseDigits_of_forall₂ hvs (by decide)] at h
    split at h
    · next hlt =>
        obtain rfl := Except.ok.inj h
        exact ⟨⟨vs, hvs, valueAfter_zero vs⟩, hlt⟩
    · cases h
  · rintro ⟨⟨vs, hvs, rfl⟩, hlt⟩
    rw [← valueAfter_zero] at hlt ⊢
    rw [parseDigits_of_forall₂ hvs (by decide), if_pos hlt]

theorem parseDigits_eq_tooLarge (h : Numeral cs n) (hn : UInt64.size ≤ n) :
    parseDigits 0 cs = .error .tooLarge := by
  obtain ⟨vs, hvs, rfl⟩ := h
  rw [parseDigits_of_forall₂ hvs (by decide), valueAfter_zero, if_neg (Nat.not_lt.mpr hn)]

/-! ### Reading texts -/

/-- A plus sign is no digit. -/
theorem Numeral.head?_ne (h : Numeral cs n) : cs.head? ≠ some '+' := by
  obtain ⟨vs, hvs, -⟩ := h
  cases hvs with
  | nil => nofun
  | @cons c v cs vs hc hcs =>
      rintro ⟨⟩
      have hvalue := digitValue?_eq_some_iff.mpr hc
      cases hvalue

theorem parse_of_numeral (hne : cs ≠ []) (hs : s.toList = cs ∨ s.toList = '+' :: cs)
    (h : Numeral cs n) : parse s = (parseDigits 0 cs).map fun n => ⟨n.toUInt64⟩ := by
  unfold parse
  rcases hs with hs | hs
  · rw [hs]
    split
    · exact absurd rfl hne
    · exact absurd rfl h.head?_ne
    · exact absurd rfl h.head?_ne
    · rfl
  · rw [hs]
    obtain ⟨c, cs, rfl⟩ := List.exists_cons_of_ne_nil hne
    rfl

theorem map_parseDigits_eq_ok_iff :
    ((parseDigits 0 cs).map fun n => (⟨n.toUInt64⟩ : Fingerprint)) = .ok f ↔
      Numeral cs f.bits.toNat := by
  rw [Except.map_eq_ok_iff]
  constructor
  · rintro ⟨n, hn, rfl⟩
    obtain ⟨hnumeral, hlt⟩ := parseDigits_eq_ok_iff.mp hn
    have hbits : n.toUInt64.toNat = n := Nat.mod_eq_of_lt hlt
    rwa [hbits]
  · intro h
    exact ⟨_, parseDigits_eq_ok_iff.mpr ⟨h, f.bits.toNat_lt⟩, congrArg mk f.bits.ofNat_toNat⟩

/-- A text is read if it denotes a number of 64 bits, and gives this number. -/
theorem parse_eq_ok_iff : parse s = .ok f ↔ Denotes s f.bits.toNat := by
  constructor
  · intro h
    unfold parse at h
    split at h
    · cases h
    · cases h
    · next cs hne hs => exact ⟨cs, hne, .inr hs, map_parseDigits_eq_ok_iff.mp h⟩
    · next hne _ _ => exact ⟨s.toList, hne, .inl rfl, map_parseDigits_eq_ok_iff.mp h⟩
  · rintro ⟨cs, hne, hs, h⟩
    rw [parse_of_numeral hne hs h]
    exact map_parseDigits_eq_ok_iff.mpr h

theorem parse_eq_tooLarge (h : Denotes s n) (hn : UInt64.size ≤ n) :
    parse s = .error .tooLarge := by
  obtain ⟨cs, hne, hs, h⟩ := h
  rw [parse_of_numeral hne hs h, parseDigits_eq_tooLarge h hn]
  rfl

/-! ### The text of a fingerprint -/

theorem numeral_lastDigits (k n : Nat) : Numeral (lastDigits k n) (n % 16 ^ k) := by
  induction k generalizing n with
  | zero => exact ⟨[], .nil, Nat.mod_one n⟩
  | succ k ih =>
      obtain ⟨vs, hvs, hvalue⟩ := ih (n / 16)
      have hlast : IsDigit (Nat.digitChar (n % 16)) (n % 16) :=
        ⟨Nat.mod_lt n (by decide), .inl rfl⟩
      refine ⟨vs ++ [n % 16], List.rel_append hvs (.cons hlast .nil), ?_⟩
      rw [List.reverse_append, List.reverse_singleton, List.singleton_append, Nat.ofDigits_cons,
        ← hvalue, Nat.pow_succ', Nat.mod_mul]

theorem denotes_text (f : Fingerprint) : Denotes f.text f.bits.toNat := by
  have hnumeral := numeral_lastDigits 16 f.bits.toNat
  rw [Nat.mod_eq_of_lt f.toNat_bits_lt] at hnumeral
  refine ⟨_, ?_, .inl f.toList_text, hnumeral⟩
  exact List.ne_nil_of_length_pos (by rw [length_lastDigits]; decide)

theorem parse_text (f : Fingerprint) : parse f.text = .ok f := parse_eq_ok_iff.mpr f.denotes_text

theorem reread (f : Fingerprint) : codec.reread f = .ok f := by
  refine Codec.parsed_reread ?_
  rw [parse_text]
  rfl

/-- **Texts stand for fingerprints one to one and in their order.**  A fingerprint comes back from
its text and from its JSON, a text is read as the number that it denotes, and one that denotes more
than 64 bits hold is refused. -/
theorem text_faithful :
    (∀ f, parse f.text = .ok f ∧ Json.decode codec (Json.render (codec.write f)) = .ok f) ∧
    (∀ f g : Fingerprint, f.text < g.text ↔ f.bits.toNat < g.bits.toNat) ∧
    (∀ s f, parse s = .ok f ↔ Denotes s f.bits.toNat) ∧
    ∀ s n, Denotes s n → 2 ^ 64 - 1 < n → parse s = .error .tooLarge := by
  refine ⟨?_, ?_, ?_, ?_⟩
  · intro f
    exact ⟨f.parse_text, Json.decode_render (n := 1) Json.writes_parsed (by decide) f.reread⟩
  · exact fun f g => text_lt_text_iff.trans UInt64.lt_iff_toNat_lt
  · exact fun s f => parse_eq_ok_iff
  · exact fun s n h hn => parse_eq_tooLarge h hn

/-- The number after the greatest one. -/
theorem text_faithful_beyond :
    Denotes "+10000000000000000" (2 ^ 64) ∧ parse "+10000000000000000" = .error .tooLarge := by
  have h : Denotes "+10000000000000000" (2 ^ 64) :=
    ⟨lastDigits 17 (2 ^ 64), by decide, .inr (by decide), numeral_lastDigits 17 (2 ^ 64)⟩
  exact ⟨h, text_faithful.2.2.2 _ _ h (by decide)⟩

end AlertRouter.Fingerprint
