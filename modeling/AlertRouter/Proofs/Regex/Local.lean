import AlertRouter.Regex.Pattern.Escape

/-! # Readers that stop at a parenthesis

A reader takes something off the front of a text.  What it takes may depend on what follows, if it
looks ahead.  A `Local` reader does not look beyond a closing parenthesis in front of which it
stops: it takes the same whatever follows from the parenthesis on, and if nothing follows at all
(`Takes`).  Some readers are local but for texts that they leave and that no reading can go on with
(`LocalBut`).

Readers that are put together of local ones are local (`LocalBut.bind`, `LocalBut.cons`,
`LocalBut.ifPrefix`, `LocalBut.skip`), also in a loop whose fuel comes from the length of the text
(`local_rounds`).  A reader that goes by what stands behind a character is local but for the
character with nothing behind it (`localBut_behind`). -/

namespace AlertRouter.Regex.Pattern

/-- A reader takes a value off the front of a text and leaves the rest. -/
abbrev Reader (α : Type) := List Char → Option (α × List Char)

/-- The reader takes `a` off `cs` and leaves `rest`, if `cs` stands alone and if a closing
parenthesis follows it. -/
structure Takes {α : Type} (g : Reader α) (cs : List Char) (a : α) (rest : List Char) : Prop where
  alone : g cs = some (a, rest)
  before : ∀ more, g (cs ++ ')' :: more) = some (a, rest ++ ')' :: more)

/-- A reader that leaves the end of its text, and that does not look beyond a closing parenthesis in
front of which it stops, unless `S` holds of what it leaves there. -/
structure LocalBut {α : Type} (S : α → List Char → Prop) (g : Reader α) : Prop where
  suffix : ∀ {cs a rest}, g cs = some (a, rest) → rest <:+ cs
  stops : ∀ {cs z a rest}, g (cs ++ ')' :: z) = some (a, rest) → ')' :: z <:+ rest →
    ∃ left, rest = left ++ ')' :: z ∧ (Takes g cs a left ∨ S a left)

/-- A reader that does not look beyond a closing parenthesis in front of which it stops. -/
abbrev Local {α : Type} (g : Reader α) : Prop := LocalBut (fun _ _ => False) g

variable {α β : Type} {S : α → List Char → Prop} {cs rest rest' z : List Char} {a : α} {b : β}

/-! ### Texts before a closing parenthesis -/

theorem not_suffix_of_cons_suffix {c : Char} (h : c :: z <:+ rest) : ¬ rest <:+ z := by
  intro h'
  have hle := h.length_le
  have hle' := h'.length_le
  rw [List.length_cons] at hle
  omega

/-- What starts without a parenthesis does so in front of it. -/
theorem prefix_append_iff {ds : List Char} (hds : ')' ∉ ds) :
    ds <+: cs ++ ')' :: z ↔ ds <+: cs := by
  constructor
  · intro h
    refine (List.prefix_or_prefix_of_prefix h (List.prefix_append _ _)).elim id ?_
    rintro ⟨l, rfl⟩
    cases l with
    | nil => exact (List.append_nil cs).symm ▸ List.prefix_rfl
    | cons d l =>
        rw [List.prefix_append_right_inj, List.cons_prefix_cons] at h
        exact absurd (List.mem_append_right cs (h.1 ▸ List.mem_cons_self)) hds
  · exact fun h => h.trans (List.prefix_append _ _)

/-! ### Putting readers together -/

namespace Takes

variable {g : Reader α} {h : α → Reader β}

theorem pure (a : α) (cs : List Char) : Takes (fun cs => some (a, cs)) cs a cs :=
  ⟨rfl, fun _ => rfl⟩

theorem bind (hg : Takes g cs a rest) (hh : Takes (h a) rest b rest') :
    Takes (fun cs => (g cs).bind fun p => h p.1 p.2) cs b rest' := by
  refine ⟨?_, fun more => ?_⟩
  · show (g cs).bind _ = _
    rw [hg.alone]
    exact hh.alone
  · show (g (cs ++ ')' :: more)).bind _ = _
    rw [hg.before]
    exact hh.before more

end Takes

/-- What a local reader takes in front of a parenthesis. -/
theorem LocalBut.takes {g : Reader α} (hg : Local g) (h : g (cs ++ ')' :: z) = some (a, rest))
    (hrest : ')' :: z <:+ rest) : ∃ left, rest = left ++ ')' :: z ∧ Takes g cs a left := by
  obtain ⟨left, hleft, htakes⟩ := hg.stops h hrest
  exact ⟨left, hleft, htakes.resolve_right id⟩

namespace LocalBut

variable {g g' : Reader α} {h : α → Reader β}

theorem mono {S' : α → List Char → Prop} (hg : LocalBut S g)
    (hS : ∀ {a left}, S a left → S' a left) : LocalBut S' g where
  suffix := hg.suffix
  stops hcs hrest := by
    obtain ⟨left, hleft, htakes⟩ := hg.stops hcs hrest
    exact ⟨left, hleft, htakes.imp_right hS⟩

theorem of_local (hg : Local g) : LocalBut S g := hg.mono False.elim

theorem pure (a : α) : LocalBut S fun cs => some (a, cs) where
  suffix hcs := by
    cases hcs
    exact List.suffix_rfl
  stops hcs _ := by
    cases hcs
    exact ⟨_, rfl, .inl (.pure a _)⟩

theorem fail : LocalBut S fun _ => (none : Option (α × List Char)) where
  suffix := nofun
  stops := nofun

theorem ofOption (o : Option α) : LocalBut S fun cs => o.map (·, cs) := by
  cases o with
  | none => exact fail
  | some a => exact pure a

theorem ite (p : Prop) [Decidable p] (hg : LocalBut S g) (hg' : LocalBut S g') :
    LocalBut S fun cs => if p then g cs else g' cs := by
  by_cases hp : p
  · simpa only [if_pos hp] using hg
  · simpa only [if_neg hp] using hg'

theorem bind {S : β → List Char → Prop} (hg : Local g) (hh : ∀ a, LocalBut S (h a)) :
    LocalBut S fun cs => (g cs).bind fun p => h p.1 p.2 where
  suffix hcs := by
    obtain ⟨⟨a, rest⟩, hfirst, hsecond⟩ := Option.bind_eq_some_iff.mp hcs
    exact ((hh a).suffix hsecond).trans (hg.suffix hfirst)
  stops hcs hrest := by
    obtain ⟨⟨a, rest⟩, hfirst, hsecond⟩ := Option.bind_eq_some_iff.mp hcs
    -- The first reader stops no later than the second one.
    obtain ⟨left, rfl, htakes⟩ := hg.takes hfirst (hrest.trans ((hh a).suffix hsecond))
    obtain ⟨left', rfl, htakes'⟩ := (hh a).stops hsecond hrest
    exact ⟨left', rfl, htakes'.imp_left htakes.bind⟩

/-- What the first reader leaves need not be local where the second one cannot go on with it. -/
theorem bind_of_none (hg : LocalBut S g) (hh : ∀ a, Local (h a))
    (hS : ∀ {a left}, S a left → h a left = none) :
    Local fun cs => (g cs).bind fun p => h p.1 p.2 where
  suffix hcs := by
    obtain ⟨⟨a, rest⟩, hfirst, hsecond⟩ := Option.bind_eq_some_iff.mp hcs
    exact ((hh a).suffix hsecond).trans (hg.suffix hfirst)
  stops hcs hrest := by
    obtain ⟨⟨a, rest⟩, hfirst, hsecond⟩ := Option.bind_eq_some_iff.mp hcs
    obtain ⟨left, rfl, htakes⟩ := hg.stops hfirst (hrest.trans ((hh a).suffix hsecond))
    obtain ⟨left', rfl, htakes'⟩ := (hh a).takes hsecond hrest
    rcases htakes with htakes | hstuck
    · exact ⟨left', rfl, .inl (htakes.bind htakes')⟩
    · cases (hS hstuck).symm.trans htakes'.alone

theorem map {S : β → List Char → Prop} {k : α → β} (hg : LocalBut (fun a => S (k a)) g) :
    LocalBut S fun cs => (g cs).map fun p => (k p.1, p.2) where
  suffix hcs := by
    obtain ⟨p, hp, hcs⟩ := Option.map_eq_some_iff.mp hcs
    cases hcs
    exact hg.suffix hp
  stops hcs hrest := by
    obtain ⟨p, hp, hcs⟩ := Option.map_eq_some_iff.mp hcs
    cases hcs
    obtain ⟨left, hleft, htakes⟩ := hg.stops hp hrest
    refine ⟨left, hleft, htakes.imp_left fun htakes => ⟨?_, fun more => ?_⟩⟩
    · exact congrArg (Option.map _) htakes.alone
    · exact congrArg (Option.map _) (htakes.before more)

/-- A reader that goes by the first character. -/
theorem cons (hnil : g [] = none) (hg : ∀ c, LocalBut S fun cs => g (c :: cs)) :
    LocalBut S g where
  suffix {cs _ _} hcs := by
    cases cs with
    | nil => cases hnil.symm.trans hcs
    | cons c cs => exact ((hg c).suffix hcs).trans (List.suffix_cons c cs)
  stops {cs _ _ _} hcs hrest := by
    cases cs with
    | nil => exact absurd ((hg ')').suffix hcs) (not_suffix_of_cons_suffix hrest)
    | cons c cs =>
        obtain ⟨left, rfl, htakes⟩ := (hg c).stops hcs hrest
        exact ⟨left, rfl, htakes.imp_left fun htakes => ⟨htakes.alone, htakes.before⟩⟩

/-- A reader that goes by whether its text starts with `ds`. -/
theorem ifPrefix {ds : List Char} (hds : ')' ∉ ds) (hg : LocalBut S g) (hg' : LocalBut S g') :
    LocalBut S fun cs => if ds <+: cs then g (cs.drop ds.length) else g' cs where
  suffix {cs _ _} hcs := by
    split at hcs
    · exact (hg.suffix hcs).trans (List.drop_suffix _ _)
    · exact hg'.suffix hcs
  stops {cs z _ _} hcs hrest := by
    simp only [prefix_append_iff hds] at hcs
    split at hcs
    · next hpre =>
        obtain ⟨cs, rfl⟩ := hpre
        rw [List.append_assoc, List.drop_left] at hcs
        obtain ⟨left, rfl, htakes⟩ := hg.stops hcs hrest
        refine ⟨left, rfl, htakes.imp_left fun htakes => ⟨?_, fun more => ?_⟩⟩
        · rw [if_pos (List.prefix_append _ _), List.drop_left]
          exact htakes.alone
        · rw [List.append_assoc, if_pos (List.prefix_append _ _), List.drop_left]
          exact htakes.before more
    · next hpre =>
        obtain ⟨left, rfl, htakes⟩ := hg'.stops hcs hrest
        refine ⟨left, rfl, htakes.imp_left fun htakes => ⟨?_, fun more => ?_⟩⟩
        · rw [if_neg hpre]
          exact htakes.alone
        · rw [if_neg (mt (prefix_append_iff hds).mp hpre)]
          exact htakes.before more

end LocalBut

theorem span_append {p : Char → Bool} (hp : p ')' = false) (cs more : List Char) :
    (cs ++ ')' :: more).takeWhile p = cs.takeWhile p ∧
      (cs ++ ')' :: more).dropWhile p = cs.dropWhile p ++ ')' :: more := by
  induction cs with
  | nil => simp [hp]
  | cons c cs ih =>
      cases hc : p c with
      | true => simp [hc, ih]
      | false => simp [hc]

/-- A reader of the characters of a kind to which the parenthesis does not belong. -/
theorem local_span {p : Char → Bool} (hp : p ')' = false) :
    Local fun cs => some (cs.takeWhile p, cs.dropWhile p) where
  suffix {cs _ _} hcs := by
    cases hcs
    exact List.dropWhile_suffix p
  stops {cs z _ _} hcs _ := by
    cases hcs
    refine ⟨cs.dropWhile p, (span_append hp cs z).2, .inl ⟨?_, fun more => ?_⟩⟩
    · rw [(span_append hp cs z).1]
    · rw [(span_append hp cs z).1, (span_append hp cs more).1, (span_append hp cs more).2]

theorem drop_length_takeWhile (p : Char → Bool) (cs : List Char) :
    cs.drop (cs.takeWhile p).length = cs.dropWhile p := by
  induction cs with
  | nil => rfl
  | cons c cs ih =>
      cases hc : p c with
      | true => simpa [hc] using ih
      | false => simp [hc]

theorem cut?_cons (d c : Char) (cs : List Char) : cut? d (c :: cs) =
    if c = d then some ([], cs) else (cut? d cs).map fun p => (c :: p.1, p.2) := by
  simp only [cut?, drop_length_takeWhile]
  by_cases hc : c = d
  · simp [hc]
  · have hne : (c != d) = true := bne_iff_ne.mpr hc
    simp only [if_neg hc, List.dropWhile_cons, List.takeWhile_cons, hne, if_true]
    cases cs.dropWhile (· != d) <;> rfl

/-- A text is cut at the first occurrence. -/
theorem cut?_eq_some_iff {d : Char} {front : List Char} :
    cut? d cs = some (front, rest) ↔ cs = front ++ d :: rest ∧ d ∉ front := by
  induction cs generalizing front with
  | nil => simp [cut?]
  | cons c cs ih =>
      rw [cut?_cons]
      by_cases hc : c = d
      · rw [if_pos hc]
        cases front with
        | nil => simp [hc]
        | cons e front =>
            simp only [Option.some.injEq, Prod.mk.injEq, List.nil_eq, reduceCtorEq, false_and,
              List.cons_append, List.cons.injEq, List.mem_cons, not_or, false_iff]
            rintro ⟨⟨rfl, -⟩, hd, -⟩
            exact hd hc.symm
      · rw [if_neg hc, Option.map_eq_some_iff]
        constructor
        · rintro ⟨⟨front, back⟩, hcut, h⟩
          cases h
          obtain ⟨rfl, hfront⟩ := ih.mp hcut
          exact ⟨rfl, List.not_mem_cons_of_ne_of_not_mem (Ne.symm hc) hfront⟩
        · rintro ⟨happend, hfront⟩
          cases front with
          | nil => exact absurd (List.cons.inj happend).1 hc
          | cons e front =>
              obtain ⟨rfl, rfl⟩ := List.cons.inj happend
              exact ⟨(front, rest), ih.mpr ⟨rfl, List.not_mem_of_not_mem_cons hfront⟩, rfl⟩

/-- What is cut off ends before the first occurrence, which stands next. -/
theorem takeWhile_of_cut? {d : Char} {front : List Char} (h : cut? d cs = some (front, rest)) :
    cs.takeWhile (· != d) = front ∧ cs.drop front.length = d :: rest := by
  refine ⟨?_, ?_⟩
  · unfold cut? at h
    dsimp only at h
    split at h
    · cases h
    · exact (Prod.mk.inj (Option.some.inj h)).1
  · rw [(cut?_eq_some_iff.mp h).1, List.drop_left]

theorem drop_takeWhile_of_cut? {d : Char} (h : cut? d cs = none) :
    cs.drop (cs.takeWhile (· != d)).length = [] := by
  unfold cut? at h
  dsimp only at h
  split at h
  · assumption
  · cases h

theorem local_cut? (d : Char) : Local (cut? d) where
  suffix hcs := by
    obtain ⟨rfl, -⟩ := cut?_eq_some_iff.mp hcs
    exact (List.suffix_cons _ _).trans (List.suffix_append _ _)
  stops {cs z front _} hcs hrest := by
    obtain ⟨happend, hfront⟩ := cut?_eq_some_iff.mp hcs
    obtain ⟨left, rfl⟩ := hrest
    have hcs : cs = front ++ d :: left := by
      rwa [← List.cons_append, ← List.append_assoc, List.append_cancel_right_eq] at happend
    refine ⟨left, rfl, .inl ⟨cut?_eq_some_iff.mpr ⟨hcs, hfront⟩, fun more => ?_⟩⟩
    exact cut?_eq_some_iff.mpr ⟨by rw [hcs, List.append_assoc, List.cons_append], hfront⟩

/-! ### Blanks and comments -/

theorem dropComment_suffix (cs : List Char) : dropComment cs <:+ cs := by
  induction cs with
  | nil => exact List.suffix_rfl
  | cons c cs ih =>
      rw [dropComment]
      split
      · exact List.suffix_cons c cs
      · exact ih.trans (List.suffix_cons c cs)

/-- A comment ends before a closing parenthesis or goes on after it. -/
theorem dropComment_append (cs : List Char) :
    (∀ more, dropComment (cs ++ ')' :: more) = dropComment cs ++ ')' :: more) ∨
      dropComment cs = [] ∧ ∀ more, dropComment (cs ++ ')' :: more) <:+ more := by
  induction cs with
  | nil => exact .inr ⟨rfl, fun more => dropComment_suffix more⟩
  | cons c cs ih =>
      simp only [List.cons_append, dropComment]
      split
      · exact .inl fun _ => rfl
      · exact ih

theorem skipSpace_nil (e : Bool) : skipSpace e [] = [] := by rw [skipSpace]

theorem skipSpace_paren (e : Bool) (more : List Char) :
    skipSpace e (')' :: more) = ')' :: more := by
  rw [skipSpace, if_neg, if_neg]
  · simp
  · rw [show Unicode.isBlank ')' = false from rfl, Bool.and_false]
    exact Bool.false_ne_true

theorem skipSpace_suffix (e : Bool) (cs : List Char) : skipSpace e cs <:+ cs := by
  fun_induction skipSpace e cs with
  | case1 => exact List.suffix_rfl
  | case2 c cs _ ih => exact ih.trans (List.suffix_cons c cs)
  | case3 c cs _ _ ih =>
      exact (ih.trans (dropComment_suffix cs)).trans (List.suffix_cons c cs)
  | case4 => exact List.suffix_rfl

/-- Blanks and comments end before a closing parenthesis, unless a comment goes on after it. -/
theorem skipSpace_append (e : Bool) (cs : List Char) :
    (∀ more, skipSpace e (cs ++ ')' :: more) = skipSpace e cs ++ ')' :: more) ∨
      skipSpace e cs = [] ∧ ∀ more, skipSpace e (cs ++ ')' :: more) <:+ more := by
  fun_induction skipSpace e cs with
  | case1 => exact .inl fun more => skipSpace_paren e more
  | case2 c cs hblank ih =>
      have hskip (more : List Char) :
          skipSpace e (c :: cs ++ ')' :: more) = skipSpace e (cs ++ ')' :: more) := by
        rw [List.cons_append, skipSpace, if_pos hblank]
      simpa only [hskip] using ih
  | case3 c cs hblank hcomment ih =>
      have hskip (more : List Char) : skipSpace e (c :: cs ++ ')' :: more) =
          skipSpace e (dropComment (cs ++ ')' :: more)) := by
        rw [List.cons_append, skipSpace, if_neg hblank, if_pos hcomment]
      simp only [hskip]
      rcases dropComment_append cs with happend | ⟨hnil, hbeyond⟩
      · simpa only [happend] using ih
      · rw [hnil, skipSpace_nil]
        exact .inr ⟨rfl, fun more => (skipSpace_suffix e _).trans (hbeyond more)⟩
  | case4 c cs hblank hcomment =>
      refine .inl fun more => ?_
      rw [List.cons_append, skipSpace, if_neg hblank, if_neg hcomment]

theorem local_skipSpace (e : Bool) : Local fun cs => some ((), skipSpace e cs) where
  suffix hcs := by
    cases hcs
    exact skipSpace_suffix e _
  stops {cs z _ _} hcs hrest := by
    cases hcs
    rcases skipSpace_append e cs with happend | ⟨-, hbeyond⟩
    · refine ⟨skipSpace e cs, happend z, .inl ⟨rfl, fun more => ?_⟩⟩
      rw [happend more]
    · exact absurd (hbeyond z) (not_suffix_of_cons_suffix hrest)

/-- A reader that starts after blanks and comments. -/
theorem LocalBut.skip {g : Reader α} (hg : LocalBut S g) (e : Bool) :
    LocalBut S fun cs => g (skipSpace e cs) :=
  (local_skipSpace e).bind fun _ => hg

def firstChar? : Reader Char
  | [] => none
  | c :: cs => some (c, cs)

theorem local_firstChar? : Local firstChar? :=
  .cons rfl LocalBut.pure

theorem nextChar?_eq (f : Flags) :
    nextChar? f = fun cs => firstChar? (skipSpace f.extended cs) := by
  funext cs
  rw [nextChar?]
  cases skipSpace f.extended cs <;> rfl

theorem local_nextChar? (f : Flags) : Local (nextChar? f) := by
  rw [nextChar?_eq]
  exact local_firstChar?.skip f.extended

/-- The next character is taken, not just looked at. -/
theorem length_lt_of_nextChar? {f : Flags} {c : Char} (h : nextChar? f cs = some (c, rest)) :
    rest.length < cs.length := by
  have hle := (skipSpace_suffix f.extended cs).length_le
  rw [nextChar?] at h
  split at h
  · next hskip =>
      cases h
      rw [hskip, List.length_cons] at hle
      omega
  · cases h

/-! ### Looking behind a character -/

/-- The character `x`, with nothing but blanks and comments behind it. -/
def Lone (e : Bool) (x : Char) (cs : List Char) : Prop :=
  ∃ rest, cs = x :: rest ∧ skipSpace e rest = []

/-- Looks behind the character `x` in front.  If what is there satisfies `p`, it is read by `g`, and
if not, the character is left where it is, as any other character is. -/
def behind (e : Bool) (x : Char) (p : Char → Bool) (g : Reader α) (keep atEnd : Option α) : Reader α
  | [] => atEnd.map (·, [])
  | c :: cs =>
    if c = x then (skipSpace e cs).head?.bind fun d => if p d then g cs else keep.map (·, c :: cs)
    else keep.map (·, c :: cs)

section Behind

variable {e : Bool} {x : Char} {p : Char → Bool} {g : Reader α} {keep atEnd : Option α}

theorem behind_of_ne {c : Char} (hc : c ≠ x) (cs : List Char) :
    behind e x p g keep atEnd (c :: cs) = keep.map (·, c :: cs) := if_neg hc

theorem behind_self (cs : List Char) : behind e x p g keep atEnd (x :: cs) =
    (skipSpace e cs).head?.bind fun d => if p d then g cs else keep.map (·, x :: cs) := if_pos rfl

theorem behind_suffix (hg : Local g) (h : behind e x p g keep atEnd cs = some (a, rest)) :
    rest <:+ cs := by
  have hleft {o : Option α} {cs : List Char} (h : o.map (·, cs) = some (a, rest)) :
      rest <:+ cs := by
    obtain ⟨_, -, h⟩ := Option.map_eq_some_iff.mp h
    cases h
    exact List.suffix_rfl
  cases cs with
  | nil => exact hleft h
  | cons c cs =>
      by_cases hc : c = x
      · subst hc
        rw [behind_self, Option.bind_eq_some_iff] at h
        obtain ⟨d, -, h⟩ := h
        split at h
        · exact (hg.suffix h).trans (List.suffix_cons c cs)
        · exact hleft h
      · rw [behind_of_ne hc] at h
        exact hleft h

/-- What stands behind the character is the same before a parenthesis. -/
theorem takes_behind {d : Char} {after : List Char} (hg : Local g)
    (hskip : skipSpace e cs = d :: after)
    (h : behind e x p g keep atEnd (x :: (cs ++ ')' :: z)) = some (a, rest))
    (hrest : ')' :: z <:+ rest) :
    ∃ left, rest = left ++ ')' :: z ∧ Takes (behind e x p g keep atEnd) (x :: cs) a left := by
  have happend := (skipSpace_append e cs).resolve_right fun hnil => by
    rw [hnil.1] at hskip
    cases hskip
  have hbehind (more : List Char) : behind e x p g keep atEnd (x :: (cs ++ ')' :: more)) =
      if p d then g (cs ++ ')' :: more) else keep.map (·, x :: (cs ++ ')' :: more)) := by
    rw [behind_self, happend, hskip]
    rfl
  have halone : behind e x p g keep atEnd (x :: cs) =
      if p d then g cs else keep.map (·, x :: cs) := by
    rw [behind_self, hskip]
    rfl
  rw [hbehind] at h
  by_cases hd : p d = true
  · rw [if_pos hd] at h
    obtain ⟨left, hleft, htakes⟩ := hg.takes h hrest
    refine ⟨left, hleft, ?_, fun more => ?_⟩
    · rw [halone, if_pos hd, htakes.alone]
    · rw [List.cons_append, hbehind, if_pos hd, htakes.before]
  · rw [if_neg hd] at h
    obtain ⟨a, hkeep, h⟩ := Option.map_eq_some_iff.mp h
    cases h
    refine ⟨x :: cs, rfl, ?_, fun more => ?_⟩
    · rw [halone, if_neg hd, hkeep]
      rfl
    · rw [List.cons_append, hbehind, if_neg hd, hkeep]
      rfl

/-- Looking behind a character is local but for a lone one, where what is there stands behind the
parenthesis or is the parenthesis, and for the end of the text. -/
theorem localBut_behind (hx : x ≠ ')') (hg : Local g)
    (hempty : ∀ cs, skipSpace e cs = [] → g cs = none) :
    LocalBut (fun _ left => Lone e x left ∨ left = [] ∧ keep ≠ atEnd)
      (behind e x p g keep atEnd) where
  suffix := behind_suffix hg
  stops {cs z a rest} h hrest := by
    cases cs with
    | nil =>
        rw [List.nil_append, behind_of_ne hx.symm] at h
        obtain ⟨a, hkeep, h⟩ := Option.map_eq_some_iff.mp h
        cases h
        by_cases heq : keep = atEnd
        · refine ⟨[], rfl, .inl ⟨?_, fun more => ?_⟩⟩
          · rw [behind, ← heq, hkeep]
            rfl
          · rw [List.nil_append, behind_of_ne hx.symm, hkeep]
            rfl
        · exact ⟨[], rfl, .inr (.inr ⟨rfl, heq⟩)⟩
    | cons c cs =>
        by_cases hc : c = x
        · subst hc
          cases hskip : skipSpace e cs with
          | nil =>
              rw [List.cons_append, behind_self] at h
              obtain ⟨d, -, h⟩ := Option.bind_eq_some_iff.mp h
              split at h
              · obtain ⟨left, -, htakes⟩ := hg.takes h hrest
                cases (hempty cs hskip).symm.trans htakes.alone
              · obtain ⟨a, -, h⟩ := Option.map_eq_some_iff.mp h
                cases h
                exact ⟨c :: cs, rfl, .inr (.inl ⟨cs, rfl, hskip⟩)⟩
          | cons d after =>
              obtain ⟨left, hleft, htakes⟩ := takes_behind hg hskip h hrest
              exact ⟨left, hleft, .inl htakes⟩
        · rw [List.cons_append, behind_of_ne hc] at h
          obtain ⟨a, hkeep, h⟩ := Option.map_eq_some_iff.mp h
          cases h
          refine ⟨c :: cs, rfl, .inl ⟨?_, fun more => ?_⟩⟩
          · rw [behind_of_ne hc, hkeep]
            rfl
          · rw [List.cons_append, behind_of_ne hc, hkeep]
            rfl

end Behind

/-! ### Loops -/

/-- What a round of a loop comes to: a value, or a state for the next rounds and what to make of
their value. -/
inductive Turn (σ β : Type) where
  | stop (b : β)
  | next (s : σ) (k : β → β)

variable {σ : Type} {round : σ → Reader (Turn σ β)} {s : σ}

/-- Rounds, at most as many as there is fuel. -/
def rounds (round : σ → Reader (Turn σ β)) : Nat → σ → Reader β
  | 0, _, _ => none
  | fuel + 1, s, cs => (round s cs).bind fun p => match p.1 with
    | .stop b => some (b, p.2)
    | .next s k => (rounds round fuel s p.2).map fun q => (k q.1, q.2)

theorem rounds_suffix (hround : ∀ {s cs t rest}, round s cs = some (t, rest) → rest <:+ cs)
    {fuel : Nat} (h : rounds round fuel s cs = some (b, rest)) : rest <:+ cs := by
  induction fuel generalizing s cs b with
  | zero => cases h
  | succ fuel ih =>
      obtain ⟨⟨t, left⟩, hfirst, h⟩ := Option.bind_eq_some_iff.mp h
      cases t with
      | stop b =>
          cases h
          exact hround hfirst
      | next s k =>
          obtain ⟨⟨b, rest⟩, hnext, h⟩ := Option.map_eq_some_iff.mp h
          cases h
          exact (ih hnext).trans (hround hfirst)

theorem rounds_of_none {fuel : Nat} (h : round s cs = none) : rounds round fuel s cs = none := by
  cases fuel with
  | zero => rfl
  | succ fuel => rw [rounds, h, Option.bind_none]

theorem rounds_of_stop {fuel : Nat} (h : round s cs = some (.stop b, rest)) :
    rounds round (fuel + 1) s cs = some (b, rest) := by
  rw [rounds, h, Option.bind_some]

/-- A first round that is followed by others. -/
theorem rounds_of_next {s' : σ} {k : β → β} {fuel : Nat}
    (h : round s cs = some (.next s' k, rest)) :
    rounds round (fuel + 1) s cs = (rounds round fuel s' rest).map fun q => (k q.1, q.2) := by
  rw [rounds, h, Option.bind_some]

/-- A loop takes `b` off `cs` and leaves `left`, if `cs` stands alone and if a closing parenthesis
follows it, with as much fuel as the text has characters or more. -/
structure TakesFuelled (round : σ → Reader (Turn σ β)) (s : σ) (cs : List Char) (b : β)
    (left : List Char) : Prop where
  alone : ∀ fuel, cs.length < fuel → rounds round fuel s cs = some (b, left)
  before : ∀ more fuel, (cs ++ ')' :: more).length < fuel →
    rounds round fuel s (cs ++ ')' :: more) = some (b, left ++ ')' :: more)

namespace TakesFuelled

variable {left mid : List Char}

theorem takes (h : TakesFuelled round s cs b left) :
    Takes (fun cs => rounds round (cs.length + 1) s cs) cs b left :=
  ⟨h.alone _ (Nat.lt_succ_self _), fun more => h.before more _ (Nat.lt_succ_self _)⟩

theorem stop (h : Takes (round s) cs (.stop b) left) : TakesFuelled round s cs b left := by
  constructor
  · intro fuel hfuel
    obtain ⟨fuel, rfl⟩ := Nat.exists_eq_add_of_lt hfuel
    exact rounds_of_stop h.alone
  · intro more fuel hfuel
    obtain ⟨fuel, rfl⟩ := Nat.exists_eq_add_of_lt hfuel
    exact rounds_of_stop (h.before more)

/-- A round takes a character at least, so the fuel that is left is enough for the next ones. -/
theorem next {s' : σ} {k : β → β} (h : Takes (round s) cs (.next s' k) mid)
    (hlt : ∀ {s cs t rest}, round s cs = some (t, rest) → rest.length < cs.length)
    (hnext : TakesFuelled round s' mid b left) : TakesFuelled round s cs (k b) left := by
  constructor
  · intro fuel hfuel
    have hlt := hlt h.alone
    obtain ⟨fuel, rfl⟩ := Nat.exists_eq_add_of_lt hfuel
    rw [rounds_of_next h.alone, hnext.alone _ (by omega)]
    rfl
  · intro more fuel hfuel
    have hlt := hlt (h.before more)
    obtain ⟨fuel, rfl⟩ := Nat.exists_eq_add_of_lt hfuel
    rw [rounds_of_next (h.before more), hnext.before more _ (by omega)]
    rfl

end TakesFuelled

/-- A loop of local rounds that take a character at least is local.  What a round leaves that is not
local must not be readable at all. -/
theorem local_rounds {S : Turn σ β → List Char → Prop} (hround : ∀ s, LocalBut S (round s))
    (hlt : ∀ {s cs t rest}, round s cs = some (t, rest) → rest.length < cs.length)
    (hS : ∀ {t left}, S t left → ∃ s k, t = .next s k ∧ ∀ fuel, rounds round fuel s left = none)
    (s : σ) : Local fun cs => rounds round (cs.length + 1) s cs where
  suffix := rounds_suffix (hround _).suffix
  stops {cs z b rest} h hrest := by
    suffices hall : ∃ left, rest = left ++ ')' :: z ∧ TakesFuelled round s cs b left by
      obtain ⟨left, hleft, htakes⟩ := hall
      exact ⟨left, hleft, .inl htakes.takes⟩
    -- By induction on the fuel that was enough for the longer text.
    generalize (cs ++ ')' :: z).length + 1 = fuel at h
    induction fuel generalizing s cs b with
    | zero => cases h
    | succ fuel ih =>
        obtain ⟨⟨t, mid⟩, hfirst, h⟩ := Option.bind_eq_some_iff.mp h
        cases t with
        | stop b =>
            cases h
            obtain ⟨left, rfl, htakes⟩ := (hround s).stops hfirst hrest
            refine ⟨left, rfl, .stop (htakes.resolve_right fun hstuck => ?_)⟩
            obtain ⟨s, k, hnext, -⟩ := hS hstuck
            cases hnext
        | next s' k =>
            obtain ⟨⟨b, rest'⟩, hnext, h⟩ := Option.map_eq_some_iff.mp h
            obtain ⟨rfl, rfl⟩ := Prod.mk.inj h
            have hmid := hrest.trans (rounds_suffix (hround _).suffix hnext)
            obtain ⟨mid, rfl, htakes⟩ := (hround s).stops hfirst hmid
            obtain ⟨left, hleft, hfuelled⟩ := ih _ hnext
            refine ⟨left, hleft, .next (htakes.resolve_right fun hstuck => ?_) hlt hfuelled⟩
            obtain ⟨s, k, hnext, hnone⟩ := hS hstuck
            cases hnext
            cases (hnone _).symm.trans hfuelled.takes.alone

end AlertRouter.Regex.Pattern
