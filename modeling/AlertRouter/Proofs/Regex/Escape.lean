import AlertRouter.Proofs.Regex.Local

/-! # Escapes are read locally

The readers of what follows a backslash are local (`local_escape?_cons`).  The assertion `\b` is
not: a brace after it is looked into for the name of another assertion, and left where it is if
there is none (`localBut_boundary?`). -/

namespace AlertRouter.Regex.Pattern

variable {f : Flags} {cs rest : List Char}

/-! ### Digits and braces -/

theorem hexDigits?_succ (f : Flags) (count : Nat) : hexDigits? f (count + 1) = fun cs =>
    (nextChar? f cs).bind fun p =>
      if (Codec.digitValue? 16 p.1).isSome then
        (hexDigits? f count p.2).map fun q => (p.1 :: q.1, q.2)
      else none := by
  funext cs
  rw [hexDigits?]
  cases nextChar? f cs <;> rfl

theorem local_hexDigits? (f : Flags) (count : Nat) : Local (hexDigits? f count) := by
  induction count with
  | zero => exact .pure []
  | succ count ih =>
      rw [hexDigits?_succ]
      exact (local_nextChar? f).bind fun d =>
        .ite ((Codec.digitValue? 16 d).isSome = true) (ih.map) .fail

/-- A character before a closing brace, or the brace. -/
def bracedRound (f : Flags) : Unit → Reader (Turn Unit (List Char)) := fun _ cs =>
  (nextChar? f cs).map fun p => (if p.1 = '}' then .stop [] else .next () (p.1 :: ·), p.2)

theorem braced?_eq_rounds (f : Flags) (fuel : Nat) (cs : List Char) :
    braced? f fuel cs = rounds (bracedRound f) fuel () cs := by
  induction fuel generalizing cs with
  | zero => rfl
  | succ fuel ih =>
      rw [braced?, rounds, bracedRound]
      split
      · next h => rw [h]; rfl
      · next h => rw [h]; rfl
      · next c rest hc h =>
          have hne : c ≠ '}' := fun he => hc he
          rw [h, ih, Option.map_some, Option.bind_some, if_neg hne]

theorem local_bracedRound (f : Flags) (s : Unit) : Local (bracedRound f s) :=
  LocalBut.map (k := fun c => if c = '}' then Turn.stop [] else .next () (c :: ·))
    (local_nextChar? f)

theorem local_braced? (f : Flags) : Local fun cs => braced? f (cs.length + 1) cs := by
  simp only [braced?_eq_rounds]
  refine local_rounds (local_bracedRound f) ?_ False.elim ()
  intro _ cs t rest h
  obtain ⟨⟨c, rest⟩, hnext, h⟩ := Option.map_eq_some_iff.mp h
  cases h
  exact length_lt_of_nextChar? hnext

/-- The digits of a code point, in braces or not. -/
def hexText? (f : Flags) (count : Nat) : Reader (List Char) := fun cs =>
  (nextChar? f cs).bind fun p =>
    if p.1 = '{' then braced? f (p.2.length + 1) p.2
    else if (Codec.digitValue? 16 p.1).isSome then
      (hexDigits? f count p.2).map fun q => (p.1 :: q.1, q.2)
    else none

theorem hexChar?_eq (f : Flags) (count : Nat) : hexChar? f (count + 1) = fun cs =>
    (hexText? f count cs).bind fun p =>
      ((Codec.unsigned? 16 p.1).bind charOf?).map fun c => (c, skipSpace f.extended p.2) := by
  funext cs
  simp only [hexChar?, hexText?, hexDigits?_succ]
  cases nextChar? f cs with
  | none => rfl
  | some p =>
      obtain ⟨c, rest⟩ := p
      by_cases hc : c = '{'
      · subst hc
        simp only [Option.bind_some, if_true]
        cases braced? f (rest.length + 1) rest <;> rfl
      · simp only [Option.bind_some, if_neg hc]
        split
        · next h => exact absurd (Prod.mk.inj (Option.some.inj h)).1 hc
        · cases (if (Codec.digitValue? 16 c).isSome then
            (hexDigits? f count rest).map fun q => (c :: q.1, q.2) else none) <;> rfl

theorem local_ofOption_skip {α : Type} (o : Option α) (e : Bool) :
    Local fun cs => o.map fun a => (a, skipSpace e cs) := by
  cases o with
  | none => exact .fail
  | some a => exact (LocalBut.pure a).skip e

theorem local_hexText? (f : Flags) (count : Nat) : Local (hexText? f count) :=
  (local_nextChar? f).bind fun c => .ite (c = '{') (local_braced? f)
    (.ite ((Codec.digitValue? 16 c).isSome = true) (local_hexDigits? f count).map .fail)

theorem local_hexChar? (f : Flags) (count : Nat) : Local (hexChar? f (count + 1)) := by
  rw [hexChar?_eq]
  exact (local_hexText? f count).bind fun ds =>
    local_ofOption_skip ((Codec.unsigned? 16 ds).bind charOf?) f.extended

/-! ### Unicode classes -/

/-- The class of a name, if there are classes of Unicode. -/
def namedClass? (f : Flags) (negated : Bool) (s : Option CharSet) : Option Primitive :=
  if f.unicode then
    s.map fun s => .class (if negated then .compl (folded f s) else folded f s)
  else none

theorem unicodeEscape?_eq (f : Flags) (negated : Bool) : unicodeEscape? f negated = fun cs =>
    (nextChar? f cs).bind fun p =>
      if p.1 = '{' then
        (braced? f (p.2.length + 1) p.2).bind fun q =>
          (namedClass? f negated (unicodeClass? q.1)).map (·, q.2)
      else if p.1 = '\\' then none
      else (namedClass? f negated (UnicodeClass.category?
        (UnicodeClass.normalize (String.ofList [p.1])))).map (·, skipSpace f.extended p.2) := by
  funext cs
  simp only [unicodeEscape?, namedClass?]
  cases nextChar? f cs with
  | none => rfl
  | some p =>
      obtain ⟨c, rest⟩ := p
      by_cases hc : c = '{'
      · subst hc
        simp only [Option.bind_some, if_true]
        cases braced? f (rest.length + 1) rest with
        | none => rfl
        | some q => cases f.unicode <;> simp [Function.comp_def]
      · by_cases hc' : c = '\\'
        · subst hc'
          rfl
        · simp only [Option.bind_some, if_neg hc, if_neg hc']
          cases f.unicode <;> simp [Function.comp_def]

theorem local_unicodeEscape? (f : Flags) (negated : Bool) : Local (unicodeEscape? f negated) := by
  rw [unicodeEscape?_eq]
  have hnamed : Local fun cs => (braced? f (cs.length + 1) cs).bind fun q =>
      (namedClass? f negated (unicodeClass? q.1)).map (·, q.2) :=
    (local_braced? f).bind fun name => .ofOption (namedClass? f negated (unicodeClass? name))
  have hletter (c : Char) := local_ofOption_skip (namedClass? f negated (UnicodeClass.category?
    (UnicodeClass.normalize (String.ofList [c])))) f.extended
  exact (local_nextChar? f).bind fun c =>
    .ite (c = '{') hnamed (.ite (c = '\\') .fail (hletter c))

/-! ### Assertions -/

/-- The assertion of a word before a closing brace. -/
def wordLook? (f : Flags) : Reader Primitive := fun cs =>
  (braced? f (cs.length + 1) cs).bind fun p =>
    ((boundaryWord? f.unicode p.1).map Primitive.assertion).map (·, p.2)

theorem local_wordLook? (f : Flags) : Local (wordLook? f) :=
  (local_braced? f).bind fun word =>
    .ofOption ((boundaryWord? f.unicode word).map Primitive.assertion)

/-- A word needs something to be read from. -/
theorem wordLook?_eq_none (h : skipSpace f.extended cs = []) : wordLook? f cs = none := by
  have hnext : nextChar? f cs = none := by rw [nextChar?, h]
  rw [wordLook?, braced?, hnext]
  rfl

theorem boundary?_eq (f : Flags) : boundary? f =
    behind f.extended '{' (fun d => d.isAlpha || d == '-') (wordLook? f)
      (some (.assertion (.boundary f.unicode))) (some (.assertion (.boundary f.unicode))) := by
  funext cs
  cases cs with
  | nil => rfl
  | cons c cs =>
      by_cases hc : c = '{'
      · subst hc
        rw [behind_self]
        simp only [boundary?, wordLook?, nextChar?]
        cases skipSpace f.extended cs with
        | nil => rfl
        | cons d after =>
            cases braced? f (cs.length + 1) cs <;> simp [Function.comp_def]
      · rw [behind_of_ne hc]
        unfold boundary?
        split
        · next h => exact absurd (List.cons.inj h).1 hc
        · rfl

theorem localBut_boundary? (f : Flags) :
    LocalBut (fun _ => Lone f.extended '{') (boundary? f) := by
  rw [boundary?_eq]
  refine (localBut_behind (by decide) (local_wordLook? f) fun cs => wordLook?_eq_none).mono ?_
  rintro _ left (hlone | ⟨-, hne⟩)
  · exact hlone
  · exact absurd rfl hne

/-! ### What follows a backslash -/

theorem local_escape?_cons {c : Char} (hc : c ≠ 'b') : Local fun cs => escape? f (c :: cs) := by
  have hhex (count : Nat) : Local fun cs => (hexChar? f (count + 1) cs).bind fun p =>
      if !f.unicode && count + 1 == 2 && 0x80 ≤ p.1.toNat then none
      else some (Primitive.literal p.1, p.2) :=
    (local_hexChar? f count).bind fun d =>
      .ite ((!f.unicode && count + 1 == 2 && 0x80 ≤ d.toNat) = true) .fail
        (.pure (Primitive.literal d))
  unfold escape?
  dsimp only
  split
  · exact hhex 1
  · exact hhex 3
  · exact hhex 7
  · exact local_unicodeEscape? f false
  · exact local_unicodeEscape? f true
  -- The classes of digits, blanks and words; the characters with a letter of their own.
  all_goals try exact .ofOption _
  all_goals try exact .pure _
  · exact absurd rfl hc
  · exact .ite (isEscapable c = true) (.pure (Primitive.literal c)) .fail

theorem localBut_escape? (f : Flags) : LocalBut (fun _ => Lone f.extended '{') (escape? f) := by
  refine .cons rfl fun c => ?_
  by_cases hc : c = 'b'
  · subst hc
    exact localBut_boundary? f
  · exact .of_local (local_escape?_cons hc)

/-- What follows `\b` is read as an assertion. -/
theorem exists_assertion_of_escape? {p : Primitive} (h : escape? f ('b' :: cs) = some (p, rest)) :
    ∃ l, p = .assertion l := by
  have h : boundary? f cs = some (p, rest) := h
  unfold boundary? at h
  split at h
  · split at h
    · cases h
    · split at h
      · split at h
        · obtain ⟨l, -, h⟩ := Option.map_eq_some_iff.mp h
          cases h
          exact ⟨l, rfl⟩
        · cases h
      · cases h
        exact ⟨_, rfl⟩
  · cases h
    exact ⟨_, rfl⟩

end AlertRouter.Regex.Pattern
