import AlertRouter.Matcher.Expression
import AlertRouter.Proofs.Outcome
import Mathlib.Data.List.Basic

/-! # Splitting at the commas outside of quotes

A text is split into parts that are closed: read from the start, a part meets no comma outside of
its quotes and leaves no quote open (`QuoteState.Closes`).  Commas between closed parts are the only
way to put a text together, so `split` finds the parts whatever they are (`split_eq_ok_iff`). -/

namespace AlertRouter.Matcher

namespace QuoteState

/-- Reading on from the state, the text has no comma outside of quotes and leaves no quote open. -/
def Closes : QuoteState → List Char → Prop
  | s, [] => s = outside
  | s, c :: cs => ¬(s = outside ∧ c = ',') ∧ Closes (s.next c) cs

variable {s : QuoteState} {c : Char} {cs ds : List Char}

@[simp] theorem closes_nil : s.Closes [] ↔ s = outside := Iff.rfl

@[simp] theorem closes_cons :
    s.Closes (c :: cs) ↔ ¬(s = outside ∧ c = ',') ∧ (s.next c).Closes cs := Iff.rfl

instance decidableCloses : (s : QuoteState) → (cs : List Char) → Decidable (s.Closes cs)
  | s, [] => inferInstanceAs (Decidable (s = outside))
  | s, c :: cs =>
      have := decidableCloses (s.next c) cs
      inferInstanceAs (Decidable (¬(s = outside ∧ c = ',') ∧ (s.next c).Closes cs))

/-- Neither a quote nor a comma. -/
def Plain (cs : List Char) : Prop := ∀ c ∈ cs, c ≠ '"' ∧ c ≠ ','

/-- Outside of quotes, only a quote or a comma matters. -/
theorem closes_append_iff_of_plain (hcs : Plain cs) :
    outside.Closes (cs ++ ds) ↔ outside.Closes ds := by
  induction cs with
  | nil => rfl
  | cons c cs ih =>
      obtain ⟨⟨hquote, hcomma⟩, hcs⟩ := List.forall_mem_cons.mp hcs
      have hnext : next outside c = outside := if_neg hquote
      rw [List.cons_append, closes_cons, hnext, ih hcs]
      simp [hcomma]

end QuoteState

open QuoteState (Closes)

/-- The parts that make up a text, with commas between them, when reading goes on from the state.
A part is closed; the first one goes on from the state, and each of the others starts outside. -/
inductive Parts : QuoteState → List Char → List (List Char) → Prop
  | last {s : QuoteState} {part : List Char} (h : s.Closes part) : Parts s part [part]
  | comma {s : QuoteState} {part cs : List Char} {parts : List (List Char)}
      (h : s.Closes part) (hs : Parts .outside cs parts) :
      Parts s (part ++ ',' :: cs) (part :: parts)

section Parts

variable {s : QuoteState} {c : Char} {part current cs : List Char} {parts : List (List Char)}

theorem Parts.of_intercalate (hne : parts ≠ []) (h : ∀ part ∈ parts, Closes .outside part) :
    Parts .outside ([','].intercalate parts) parts := by
  induction parts with
  | nil => exact absurd rfl hne
  | cons part parts ih =>
      obtain ⟨hpart, hparts⟩ := List.forall_mem_cons.mp h
      cases parts with
      | nil =>
          rw [List.intercalate_singleton]
          exact .last hpart
      | cons q qs =>
          rw [List.intercalate_cons_cons, List.append_assoc, List.singleton_append]
          exact .comma hpart (ih (List.cons_ne_nil q qs) hparts)

theorem Parts.ne_nil (h : Parts s cs parts) : parts ≠ [] := by
  cases h <;> exact List.cons_ne_nil _ _

theorem Parts.closed (h : Parts s cs parts) (hs : s = .outside) :
    ∀ part ∈ parts, Closes .outside part := by
  induction h with
  | last h => exact List.forall_mem_singleton.mpr (hs ▸ h)
  | comma h _ ih => exact List.forall_mem_cons.mpr ⟨hs ▸ h, ih rfl⟩

theorem parts_nil_iff : Parts s [] (part :: parts) ↔ s = .outside ∧ part = [] ∧ parts = [] := by
  constructor
  · intro h
    generalize hcs : ([] : List Char) = cs at h
    cases h with
    | last h =>
        subst hcs
        exact ⟨h, rfl, rfl⟩
    | comma h hs => simp at hcs
  · rintro ⟨rfl, rfl, rfl⟩
    exact .last rfl

/-- A comma outside of quotes ends the first part. -/
theorem parts_comma_iff :
    Parts .outside (',' :: cs) (part :: parts) ↔ part = [] ∧ Parts .outside cs parts := by
  constructor
  · intro h
    generalize hcs : ',' :: cs = ds at h
    cases h with
    | last h =>
        subst hcs
        exact absurd ⟨rfl, rfl⟩ h.1
    | comma h hs =>
        cases part with
        | nil =>
            obtain rfl := (List.cons.inj hcs).2
            exact ⟨rfl, hs⟩
        | cons d part =>
            obtain rfl := (List.cons.inj hcs).1
            exact absurd ⟨rfl, rfl⟩ h.1
  · rintro ⟨rfl, h⟩
    show Parts .outside ([] ++ ',' :: cs) _
    exact .comma rfl h

/-- Any other character belongs to the first part. -/
theorem parts_cons_iff (hc : ¬(s = .outside ∧ c = ',')) :
    Parts s (c :: cs) (part :: parts) ↔
      ∃ rest, part = c :: rest ∧ Parts (s.next c) cs (rest :: parts) := by
  constructor
  · intro h
    generalize hcs : c :: cs = ds at h
    cases h with
    | last h =>
        subst hcs
        exact ⟨cs, rfl, .last h.2⟩
    | comma h hs =>
        cases part with
        | nil =>
            obtain ⟨rfl, -⟩ := List.cons.inj hcs
            exact absurd ⟨h, rfl⟩ hc
        | cons d part =>
            obtain ⟨rfl, rfl⟩ := List.cons.inj hcs
            exact ⟨part, rfl, .comma h.2 hs⟩
  · rintro ⟨rest, rfl, h⟩
    generalize hrest : rest :: parts = ps at h
    cases h with
    | last h =>
        obtain ⟨rfl, rfl⟩ := List.cons.inj hrest
        exact .last ⟨hc, h⟩
    | comma h hs =>
        obtain ⟨rfl, rfl⟩ := List.cons.inj hrest
        rw [← List.cons_append]
        exact .comma ⟨hc, h⟩ hs

/-- The characters read so far go to the front of the first part. -/
theorem splitFrom?_eq_some_iff : splitFrom? s current cs = some parts ↔
    ∃ part rest, parts = (current.reverse ++ part) :: rest ∧ Parts s cs (part :: rest) := by
  induction cs generalizing s current parts with
  | nil =>
      simp only [parts_nil_iff]
      cases s <;> simp [splitFrom?, eq_comm]
  | cons c cs ih =>
      by_cases hc : s = .outside ∧ c = ','
      · obtain ⟨rfl, rfl⟩ := hc
        simp only [splitFrom?, and_self, if_true, Option.map_eq_some_iff, ih, parts_comma_iff,
          List.reverse_nil, List.nil_append]
        constructor
        · rintro ⟨_, ⟨part, rest, rfl, h⟩, rfl⟩
          exact ⟨[], part :: rest, by simp, rfl, h⟩
        · rintro ⟨_, rest, rfl, rfl, h⟩
          obtain ⟨part, rest, rfl⟩ := List.exists_cons_of_ne_nil h.ne_nil
          exact ⟨part :: rest, ⟨part, rest, rfl, h⟩, by simp⟩
      · simp only [splitFrom?, if_neg hc, ih, parts_cons_iff hc, List.reverse_cons]
        constructor
        · rintro ⟨part, rest, rfl, h⟩
          exact ⟨c :: part, rest, by simp, part, rfl, h⟩
        · rintro ⟨_, rest, rfl, part, rfl, h⟩
          exact ⟨part, rest, by simp, h⟩

theorem split_eq_ok_iff : split cs = .ok parts ↔ Parts .outside cs parts := by
  have h : splitFrom? .outside [] cs = some parts ↔ Parts .outside cs parts := by
    rw [splitFrom?_eq_some_iff]
    constructor
    · rintro ⟨part, rest, rfl, h⟩
      exact h
    · intro h
      obtain ⟨part, rest, rfl⟩ := List.exists_cons_of_ne_nil h.ne_nil
      exact ⟨part, rest, rfl, h⟩
  rw [← h, split]
  cases splitFrom? .outside [] cs <;> simp

end Parts

end AlertRouter.Matcher
