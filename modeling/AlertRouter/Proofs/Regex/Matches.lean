import AlertRouter.Regex.Basic

/-! # What expressions match

`Regex.Matches r before w after` says that `r` matches the part `w` of a text, which stands between
`before` and `after`: an assertion looks at the neighbours of the place it stands at, a loop is a
number of matches of its body within its bounds, one after another (`Repeats`).

The search by derivatives is measured by it.  `nullable` decides whether nothing is matched at a
place (`nullable_iff`), `step` gives what is left to match after a character (`advances`), and so
the search finds a match iff there is one somewhere in the text (`isMatch_iff`).  This holds of the
expressions whose loops have their bounds in order (`Bounded`). -/

namespace AlertRouter.Regex

/-- Matches of `P`, `n` of them, one after another. -/
def Repeats (P : List Char → List Char → List Char → Prop) :
    Nat → List Char → List Char → List Char → Prop
  | 0, _, w, _ => w = []
  | n + 1, before, w, after =>
    ∃ u v, w = u ++ v ∧ P before u (v ++ after) ∧ Repeats P n (before ++ u) v after

/-- Does the expression match `w`, between what stands before and after it? -/
def Matches : Regex → List Char → List Char → List Char → Prop
  | empty, _, w, _ => w = []
  | chars s, _, w, _ => ∃ c, w = [c] ∧ s.contains c = true
  | look l, before, w, after => w = [] ∧ l.holds before.getLast? after.head? = true
  | seq r s, before, w, after =>
    ∃ u v, w = u ++ v ∧ r.Matches before u (v ++ after) ∧ s.Matches (before ++ u) v after
  | alt r s, before, w, after => r.Matches before w after ∨ s.Matches before w after
  | loop r least most, before, w, after =>
    ∃ n, least ≤ n ∧ (∀ m, most = some m → n ≤ m) ∧ Repeats r.Matches n before w after

/-- Does a match of the expression cover the whole text? -/
def Covers (r : Regex) (s : String) : Prop := r.Matches [] s.toList []

/-- Does the expression match some part of the text? -/
def FoundIn (r : Regex) (s : String) : Prop :=
  ∃ before w after, s.toList = before ++ w ++ after ∧ r.Matches before w after

/-- In no loop are fewer repetitions allowed than are asked for. -/
def Bounded : Regex → Prop
  | empty | chars _ | look _ => True
  | seq r s | alt r s => r.Bounded ∧ s.Bounded
  | loop r least most => r.Bounded ∧ ∀ m, most = some m → least ≤ m

variable {r s : Regex} {c : Char} {before w after cs : List Char}

/-! ### Repetitions -/

section Repeats

variable {P : List Char → List Char → List Char → Prop} {n : Nat}

/-- Repetitions that match nothing all stand at the same place. -/
theorem repeats_nil_iff : Repeats P n before [] after ↔ n = 0 ∨ P before [] after := by
  induction n with
  | zero => simp [Repeats]
  | succ n ih =>
      constructor
      · rintro ⟨u, v, huv, hP, -⟩
        obtain ⟨rfl, rfl⟩ := List.append_eq_nil_iff.mp huv.symm
        exact .inr hP
      · intro h
        have hP : P before [] after := h.resolve_left (Nat.succ_ne_zero n)
        refine ⟨[], [], rfl, hP, ?_⟩
        rw [List.append_nil]
        exact ih.mpr (.inr hP)

/-- Of the repetitions, some match nothing before the first one that takes a character. -/
theorem repeats_cons_iff : Repeats P n before (c :: w) after ↔
    ∃ j k u v, n = j + 1 + k ∧ (j = 0 ∨ P before [] (c :: w ++ after)) ∧ w = u ++ v ∧
      P before (c :: u) (v ++ after) ∧ Repeats P k (before ++ c :: u) v after := by
  induction n with
  | zero =>
      constructor
      · intro h
        cases h
      · rintro ⟨j, k, -, -, hn, -⟩
        omega
  | succ n ih =>
      constructor
      · rintro ⟨u, v, huv, hP, hrest⟩
        cases u with
        | nil =>
            obtain rfl : c :: w = v := huv
            rw [List.append_nil] at hrest
            obtain ⟨j, k, u, v, rfl, -, rfl, hu, hv⟩ := ih.mp hrest
            exact ⟨j + 1, k, u, v, by omega, .inr hP, rfl, hu, hv⟩
        | cons d u =>
            obtain ⟨rfl, rfl⟩ := List.cons.inj huv
            exact ⟨0, n, u, v, by omega, .inl rfl, rfl, hP, hrest⟩
      · rintro ⟨j, k, u, v, hn, hj, rfl, hu, hv⟩
        cases j with
        | zero =>
            obtain rfl : n = k := by omega
            exact ⟨c :: u, v, rfl, hu, hv⟩
        | succ j =>
            have hP := hj.resolve_left (Nat.succ_ne_zero j)
            refine ⟨[], c :: (u ++ v), rfl, hP, ?_⟩
            rw [List.append_nil]
            exact ih.mpr ⟨j, k, u, v, by omega, .inr hP, rfl, hu, hv⟩

end Repeats

theorem matches_loop_nil_iff {least : Nat} {most : Option Nat}
    (hmost : ∀ m, most = some m → least ≤ m) :
    (loop r least most).Matches before [] after ↔ least = 0 ∨ r.Matches before [] after := by
  constructor
  · rintro ⟨n, hleast, -, hrepeats⟩
    exact (repeats_nil_iff.mp hrepeats).imp_left (by omega)
  · intro h
    refine ⟨least, Nat.le_refl _, hmost, repeats_nil_iff.mpr h⟩

/-- A loop takes a character in the first repetition that does not match nothing.  The repetitions
before it are as many as are needed, if there may be any. -/
theorem matches_loop_cons_iff {least : Nat} {most : Option Nat}
    (hmost : ∀ m, most = some m → least ≤ m) :
    (loop r least most).Matches before (c :: w) after ↔ most ≠ some 0 ∧
      ∃ rest, (rest = least - 1 ∨ rest = 0 ∧ r.Matches before [] (c :: w ++ after)) ∧
        ∃ u v, w = u ++ v ∧ r.Matches before (c :: u) (v ++ after) ∧
          (loop r rest (most.map (· - 1))).Matches (before ++ c :: u) v after := by
  constructor
  · rintro ⟨n, hleast, hn, hrepeats⟩
    obtain ⟨j, k, u, v, rfl, hj, rfl, hu, hv⟩ := repeats_cons_iff.mp hrepeats
    have hk : ∀ m, most.map (· - 1) = some m → k ≤ m := by
      intro m hm
      obtain ⟨m', hm', rfl⟩ := Option.map_eq_some_iff.mp hm
      have hle := hn m' hm'
      omega
    refine ⟨fun hzero => by have := hn 0 hzero; omega, ?_⟩
    rcases hj with rfl | hj
    · exact ⟨least - 1, .inl rfl, u, v, rfl, hu, k, by omega, hk, hv⟩
    · exact ⟨0, .inr ⟨rfl, hj⟩, u, v, rfl, hu, k, by omega, hk, hv⟩
  · rintro ⟨hzero, rest, hrest, u, v, rfl, hu, k, hle, hk, hv⟩
    -- As few repetitions that match nothing as make up for what is missing.
    refine ⟨(least - (k + 1)) + 1 + k, by omega, ?_, repeats_cons_iff.mpr
      ⟨least - (k + 1), k, u, v, rfl, ?_, rfl, hu, hv⟩⟩
    · intro m hm
      have hlem := hmost m hm
      have hkm := hk (m - 1) (by rw [hm]; rfl)
      have hpos : m ≠ 0 := fun h => hzero (h ▸ hm)
      omega
    · rcases hrest with rfl | ⟨-, hnil⟩
      · exact .inl (by omega)
      · exact .inr hnil

/-! ### Matching nothing -/

theorem nullable_iff (hr : r.Bounded) :
    nullable before.getLast? after.head? r = true ↔ r.Matches before [] after := by
  induction r generalizing before after with
  | empty => simp [nullable, Matches]
  | chars s => simp [nullable, Matches]
  | look l => simp [nullable, Matches]
  | seq r s ihr ihs =>
      rw [nullable, Bool.and_eq_true, ihr hr.1, ihs hr.2]
      constructor
      · rintro ⟨hr, hs⟩
        exact ⟨[], [], rfl, hr, by rwa [List.append_nil]⟩
      · rintro ⟨u, v, huv, hr, hs⟩
        obtain ⟨rfl, rfl⟩ := List.append_eq_nil_iff.mp huv.symm
        rw [List.append_nil] at hs
        exact ⟨hr, hs⟩
  | alt r s ihr ihs =>
      rw [nullable, Bool.or_eq_true, ihr hr.1, ihs hr.2]
      rfl
  | loop r least most ih =>
      rw [nullable, Bool.or_eq_true, ih hr.1, matches_loop_nil_iff hr.2, beq_iff_eq]

/-- The same at a place that a character follows. -/
theorem nullable_some_iff (hr : r.Bounded) (c : Char) (cs : List Char) :
    nullable before.getLast? (some c) r = true ↔ r.Matches before [] (c :: cs) := by
  rw [show some c = (c :: cs).head? from rfl, nullable_iff hr]

/-! ### Taking a character -/

theorem matches_andThen_iff :
    (andThen s r).Matches before w after ↔ (seq r s).Matches before w after := by
  cases r with
  | empty =>
      constructor
      · intro h
        exact ⟨[], w, rfl, rfl, by rwa [List.append_nil]⟩
      · rintro ⟨u, v, rfl, rfl, hs⟩
        rwa [List.append_nil] at hs
  | chars _ => exact Iff.rfl
  | look _ => exact Iff.rfl
  | seq _ _ => exact Iff.rfl
  | alt _ _ => exact Iff.rfl
  | loop _ _ _ => exact Iff.rfl

theorem Bounded.andThen (hr : r.Bounded) (hs : s.Bounded) : (andThen s r).Bounded := by
  cases r with
  | empty => exact hs
  | chars _ => exact ⟨hr, hs⟩
  | look _ => exact ⟨hr, hs⟩
  | seq _ _ => exact ⟨hr, hs⟩
  | alt _ _ => exact ⟨hr, hs⟩
  | loop _ _ _ => exact ⟨hr, hs⟩

theorem Bounded.step {prev : Option Char} (hr : r.Bounded) : ∀ x ∈ step prev c r, x.Bounded := by
  induction r with
  | empty => exact nofun
  | chars s =>
      intro x hx
      unfold Regex.step at hx
      split at hx
      · obtain rfl := List.mem_singleton.mp hx
        exact trivial
      · cases hx
  | look l => exact nofun
  | seq r s ihr ihs =>
      intro x hx
      rw [Regex.step, List.mem_append, List.mem_map] at hx
      rcases hx with ⟨y, hy, rfl⟩ | hx
      · exact (ihr hr.1 y hy).andThen hr.2
      · split at hx
        · exact ihs hr.2 x hx
        · cases hx
  | alt r s ihr ihs =>
      intro x hx
      rw [Regex.step, List.mem_append] at hx
      exact hx.elim (ihr hr.1 x) (ihs hr.2 x)
  | loop r least most ih =>
      intro x hx
      unfold Regex.step at hx
      split at hx
      · cases hx
      · obtain ⟨y, hy, rfl⟩ := List.mem_map.mp hx
        refine (ih hr.1 y hy).andThen ⟨hr.1, ?_⟩
        intro m hm
        obtain ⟨m', hm', rfl⟩ := Option.map_eq_some_iff.mp hm
        have hle := hr.2 m' hm'
        split
        · exact Nat.zero_le _
        · omega

/-- One of the expressions that a step leaves matches iff the character was the first one of a
match. -/
def Advances (r : Regex) (before : List Char) (c : Char) : Prop :=
  ∀ w after, (∃ x ∈ step before.getLast? c r, x.Matches (before ++ [c]) w after) ↔
    r.Matches before (c :: w) after

/-- What a step leaves to match of an expression in front of another one. -/
theorem Advances.exists_andThen_iff (h : r.Advances before c) (s : Regex) (w after : List Char) :
    (∃ x ∈ (step before.getLast? c r).map (andThen s), x.Matches (before ++ [c]) w after) ↔
      ∃ u v, w = u ++ v ∧ r.Matches before (c :: u) (v ++ after) ∧
        s.Matches (before ++ c :: u) v after := by
  have happend (u : List Char) : before ++ [c] ++ u = before ++ c :: u := by simp
  constructor
  · rintro ⟨x, hx, hmatch⟩
    obtain ⟨y, hy, rfl⟩ := List.mem_map.mp hx
    obtain ⟨u, v, rfl, hu, hv⟩ := matches_andThen_iff.mp hmatch
    exact ⟨u, v, rfl, (h u _).mp ⟨y, hy, hu⟩, happend u ▸ hv⟩
  · rintro ⟨u, v, rfl, hu, hv⟩
    obtain ⟨y, hy, hu⟩ := (h u _).mpr hu
    exact ⟨andThen s y, List.mem_map_of_mem hy,
      matches_andThen_iff.mpr ⟨u, v, rfl, hu, (happend u).symm ▸ hv⟩⟩

theorem Advances.chars (s : CharSet) : (Regex.chars s).Advances before c := by
  intro w after
  constructor
  · rintro ⟨x, hx, hmatch⟩
    rw [step] at hx
    split at hx
    · next hc =>
        obtain rfl := List.mem_singleton.mp hx
        obtain rfl : w = [] := hmatch
        exact ⟨c, rfl, hc⟩
    · cases hx
  · rintro ⟨d, hd, hc⟩
    obtain ⟨rfl, rfl⟩ := List.cons.inj hd
    exact ⟨empty, by rw [step, if_pos hc]; exact List.mem_singleton_self _, rfl⟩

theorem Advances.seq (hr : r.Bounded) (h : r.Advances before c) (h' : s.Advances before c) :
    (Regex.seq r s).Advances before c := by
  intro w after
  rw [step]
  simp only [List.mem_append, or_and_right, exists_or, h.exists_andThen_iff s w after]
  constructor
  · rintro (⟨u, v, rfl, hu, hv⟩ | ⟨x, hx, hmatch⟩)
    · exact ⟨c :: u, v, rfl, hu, hv⟩
    · split at hx
      · next hnull =>
          refine ⟨[], c :: w, rfl, (nullable_some_iff hr c _).mp hnull, ?_⟩
          rw [List.append_nil]
          exact (h' w after).mp ⟨x, hx, hmatch⟩
      · cases hx
  · rintro ⟨u, v, huv, hu, hv⟩
    cases u with
    | nil =>
        obtain rfl : c :: w = v := huv
        rw [List.append_nil] at hv
        obtain ⟨x, hx, hmatch⟩ := (h' w after).mpr hv
        refine .inr ⟨x, ?_, hmatch⟩
        rwa [if_pos ((nullable_some_iff hr c _).mpr hu)]
    | cons d u =>
        obtain ⟨rfl, rfl⟩ := List.cons.inj huv
        exact .inl ⟨u, v, rfl, hu, hv⟩

theorem Advances.loop {least : Nat} {most : Option Nat} (hr : (Regex.loop r least most).Bounded)
    (h : r.Advances before c) : (Regex.loop r least most).Advances before c := by
  intro w after
  rw [matches_loop_cons_iff hr.2]
  unfold step
  by_cases hzero : most = some 0
  · simp [hzero]
  · rw [if_neg hzero]
    have hfirst (rest : Nat) :=
      h.exists_andThen_iff (Regex.loop r rest (most.map (· - 1))) w after
    by_cases hnull : nullable before.getLast? (some c) r = true
    · simp only [if_pos hnull, hfirst]
      have hnil := (nullable_some_iff hr.1 c (w ++ after)).mp hnull
      constructor
      · intro h
        exact ⟨hzero, 0, .inr ⟨rfl, hnil⟩, h⟩
      · -- A loop with a lower bound is one without, as far as matches go.
        rintro ⟨-, rest, -, u, v, rfl, hu, k, -, hk, hv⟩
        exact ⟨u, v, rfl, hu, k, Nat.zero_le _, hk, hv⟩
    · simp only [if_neg hnull, hfirst]
      rw [nullable_some_iff hr.1 c (w ++ after)] at hnull
      constructor
      · intro h
        exact ⟨hzero, _, .inl rfl, h⟩
      · rintro ⟨-, rest, rfl | ⟨-, hnil⟩, h⟩
        · exact h
        · exact absurd hnil hnull

theorem advances (hr : r.Bounded) : r.Advances before c := by
  induction r with
  | empty => simp [Advances, step, Matches]
  | chars s => exact .chars s
  | look l => simp [Advances, step, Matches]
  | seq r s ihr ihs => exact .seq hr.1 (ihr hr.1) (ihs hr.2)
  | alt r s ihr ihs =>
      intro w after
      rw [step]
      simp only [List.mem_append, or_and_right, exists_or, ihr hr.1 w after, ihs hr.2 w after]
      rfl
  | loop r least most ih => exact .loop hr (ih hr.1)

/-! ### Search -/

/-- Does a match of the expression start at a place, before `cs`? -/
def Starts (r : Regex) (before cs : List Char) : Prop :=
  ∃ w after, cs = w ++ after ∧ r.Matches before w after

theorem starts_nil_iff (hr : r.Bounded) :
    r.Starts before [] ↔ nullable before.getLast? none r = true := by
  rw [show (none : Option Char) = ([] : List Char).head? from rfl, nullable_iff hr]
  constructor
  · rintro ⟨w, after, h, hmatch⟩
    obtain ⟨rfl, rfl⟩ := List.append_eq_nil_iff.mp h.symm
    exact hmatch
  · intro h
    exact ⟨[], [], rfl, h⟩

theorem starts_cons_iff (hr : r.Bounded) :
    r.Starts before (c :: cs) ↔ nullable before.getLast? (some c) r = true ∨
      ∃ x ∈ step before.getLast? c r, x.Starts (before ++ [c]) cs := by
  rw [nullable_some_iff hr c cs]
  constructor
  · rintro ⟨w, after, h, hmatch⟩
    cases w with
    | nil =>
        obtain rfl : c :: cs = after := h
        exact .inl hmatch
    | cons d w =>
        obtain ⟨rfl, rfl⟩ := List.cons.inj h
        obtain ⟨x, hx, hmatch⟩ := (advances hr w after).mpr hmatch
        exact .inr ⟨x, hx, w, after, rfl, hmatch⟩
  · rintro (hmatch | ⟨x, hx, w, after, rfl, hmatch⟩)
    · exact ⟨[], c :: cs, rfl, hmatch⟩
    · exact ⟨c :: w, after, rfl, (advances hr w after).mp ⟨x, hx, hmatch⟩⟩

/-- Does a match of the expression start at a place or further on? -/
def StartsFrom (r : Regex) (before cs : List Char) : Prop :=
  ∃ skipped rest, cs = skipped ++ rest ∧ r.Starts (before ++ skipped) rest

theorem startsFrom_nil_iff : r.StartsFrom before [] ↔ r.Starts before [] := by
  constructor
  · rintro ⟨skipped, rest, h, hstarts⟩
    obtain ⟨rfl, rfl⟩ := List.append_eq_nil_iff.mp h.symm
    rwa [List.append_nil] at hstarts
  · intro h
    exact ⟨[], [], rfl, by rwa [List.append_nil]⟩

theorem startsFrom_cons_iff : r.StartsFrom before (c :: cs) ↔
    r.Starts before (c :: cs) ∨ r.StartsFrom (before ++ [c]) cs := by
  constructor
  · rintro ⟨skipped, rest, h, hstarts⟩
    cases skipped with
    | nil =>
        obtain rfl : c :: cs = rest := h
        rw [List.append_nil] at hstarts
        exact .inl hstarts
    | cons d skipped =>
        obtain ⟨rfl, rfl⟩ := List.cons.inj h
        refine .inr ⟨skipped, rest, rfl, ?_⟩
        rwa [List.append_assoc]
  · rintro (hstarts | ⟨skipped, rest, rfl, hstarts⟩)
    · exact ⟨[], c :: cs, rfl, by rwa [List.append_nil]⟩
    · refine ⟨c :: skipped, rest, rfl, ?_⟩
      rwa [List.append_assoc] at hstarts

/-- The search keeps track of the matches that have started, one for each active expression. -/
theorem searchFrom_iff (hr : r.Bounded) (cs : List Char) {before : List Char}
    {active : List Regex} (hactive : ∀ x ∈ active, x.Bounded) :
    searchFrom r before.getLast? active cs = true ↔
      (∃ x ∈ active, x.Starts before cs) ∨ r.StartsFrom before cs := by
  induction cs generalizing before active with
  | nil =>
      rw [searchFrom, List.any_cons, Bool.or_eq_true, ← starts_nil_iff hr, startsFrom_nil_iff,
        or_comm, List.any_eq_true]
      refine or_congr_left (exists_congr fun x => and_congr_right fun hx => ?_)
      exact (starts_nil_iff (hactive x hx)).symm
  | cons c cs ih =>
      have hstep : ∀ x ∈ distinct ((r :: active).flatMap (step before.getLast? c)),
          x.Bounded := by
        intro x hx
        obtain ⟨y, hy, hx⟩ := List.mem_flatMap.mp (mem_distinct.mp hx)
        refine Bounded.step ?_ x hx
        rcases List.mem_cons.mp hy with rfl | hy
        · exact hr
        · exact hactive y hy
      have hrest : searchFrom r (before ++ [c]).getLast? _ cs = true ↔ _ := ih hstep
      rw [List.getLast?_concat] at hrest
      rw [searchFrom, Bool.or_eq_true, hrest, startsFrom_cons_iff, starts_cons_iff hr]
      have hstarts : (∃ x ∈ active, x.Starts before (c :: cs)) ↔
          (∃ x ∈ active, nullable before.getLast? (some c) x = true) ∨
            ∃ x ∈ active, ∃ y ∈ step before.getLast? c x, y.Starts (before ++ [c]) cs := by
        rw [← exists_or]
        refine exists_congr fun x => ?_
        rw [← and_or_left]
        exact and_congr_right fun hx => starts_cons_iff (hactive x hx)
      rw [hstarts]
      simp only [mem_distinct, List.mem_flatMap, List.mem_cons, List.any_cons, Bool.or_eq_true,
        List.any_eq_true]
      constructor
      · rintro ((h | h) | ⟨x, ⟨y, rfl | hy, hx⟩, h⟩ | h)
        · exact .inr (.inl (.inl h))
        · exact .inl (.inl h)
        · exact .inr (.inl (.inr ⟨x, hx, h⟩))
        · exact .inl (.inr ⟨y, hy, x, hx, h⟩)
        · exact .inr (.inr h)
      · rintro ((h | ⟨y, hy, x, hx, h⟩) | (h | ⟨x, hx, h⟩) | h)
        · exact .inl (.inr h)
        · exact .inr (.inl ⟨x, ⟨y, .inr hy, hx⟩, h⟩)
        · exact .inl (.inl h)
        · exact .inr (.inl ⟨x, ⟨r, .inl rfl, hx⟩, h⟩)
        · exact .inr (.inr h)

/-- **The search finds a match iff there is one.** -/
theorem isMatch_iff (hr : r.Bounded) (s : String) : r.isMatch s = true ↔ r.FoundIn s := by
  rw [isMatch, show (none : Option Char) = ([] : List Char).getLast? from rfl,
    searchFrom_iff hr _ (List.forall_mem_nil _)]
  constructor
  · rintro (⟨x, hx, -⟩ | ⟨before, rest, hs, w, after, rfl, hmatch⟩)
    · cases hx
    · exact ⟨before, w, after, by rw [hs, List.append_assoc], hmatch⟩
  · rintro ⟨before, w, after, hs, hmatch⟩
    exact .inr ⟨before, w ++ after, by rw [hs, List.append_assoc], w, after, rfl, hmatch⟩

end AlertRouter.Regex
