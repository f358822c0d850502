import AlertRouter.Proofs.Regex.Reading
import AlertRouter.Regex.Anchored

/-! # Patterns in a group of their own

A pattern is anchored by its text: `^(?:` is put in front of it and `)$` after it.  What is read in
that group is what is read of the pattern itself, with one more group around it (`State.within`), up
to the parenthesis that closes the group (`exists_reads_of_readAll`).

This may be the parenthesis of the anchor.  Then the pattern is one by itself, and what is read is
its expression between the two assertions (`Whole.anchored`).  Or it may be one of the pattern,
which closes nothing and so is no pattern by itself (`Whole.parse?_append`).  There is no third
case (`whole_or_split`). -/

namespace AlertRouter.Regex.Pattern

variable {s s' : State} {base : Frame} {cs rest : List Char} {c : Char}

/-! ### One more group around everything -/

/-- The state with one more group around everything. -/
def State.within (s : State) (base : Frame) : State := { s with outer := s.outer ++ [base] }

theorem opened?_within (s : State) (base : Frame) (o : Opening) :
    (s.within base).opened? o = (s.opened? o).map (·.within base) := by
  cases o with
  | named name =>
      by_cases h : name ∈ s.names
      · simp [State.opened?, State.within, h]
      · simp [State.opened?, State.within, State.openGroup, h]
  | plain => rfl
  | withFlags f => rfl
  | setFlags f => rfl

theorem closeGroup?_within (h : s.outer ≠ []) (base : Frame) :
    (s.within base).closeGroup? = s.closeGroup?.map (·.within base) := by
  obtain ⟨flags, frame, outer, names⟩ := s
  obtain ⟨parent, outer, rfl⟩ := List.exists_cons_of_ne_nil h
  rfl

/-- The outer group has no part in a token that does not close it. -/
theorem advance?_within (h : c = ')' → s.outer ≠ []) (base : Frame) (cs : List Char) :
    advance? (s.within base) c cs = (advance? s c cs).map fun p => (p.1.within base, p.2) := by
  have hopen : advance? (s.within base) '(' cs =
      (advance? s '(' cs).map fun p => (p.1.within base, p.2) := by
    rw [advance?_open, advance?_open]
    show (opening? s.flags cs).bind _ = _
    cases opening? s.flags cs with
    | none => rfl
    | some p =>
        rw [Option.bind_some, Option.bind_some, opened?_within, Option.map_map, Option.map_map]
        rfl
  unfold advance?
  dsimp only
  split
  · exact hopen
  · rw [closeGroup?_within (h rfl), Option.map_map, Option.map_map]
    rfl
  · rfl
  · rw [Option.map_map]
    rfl
  · rw [Option.map_map]
    rfl
  · rw [Option.map_map]
    rfl
  · rw [Option.map_map]
    rfl
  · rw [Option.map_bind]
    simp only [Function.comp_def, Option.map_map]
    rfl
  · rw [Option.map_map]
    rfl
  · rfl
  · rfl
  · rw [Option.map_map]
    rfl
  · rfl

theorem token?_within (h : ∀ after, skipSpace s.flags.extended cs = ')' :: after → s.outer ≠ [])
    (base : Frame) :
    token? (s.within base) cs = (token? s cs).map fun p => (p.1.within base, p.2) := by
  show (nextChar? s.flags cs).bind _ = ((nextChar? s.flags cs).bind _).map _
  rw [nextChar?]
  cases hskip : skipSpace s.flags.extended cs with
  | nil => rfl
  | cons c after => exact advance?_within (fun hc => h after (hc ▸ hskip)) base after

/-- A closing parenthesis closes nothing if no group is open. -/
theorem token?_paren (houter : s.outer = []) (after : List Char)
    (hskip : skipSpace s.flags.extended cs = ')' :: after) : token? s cs = none := by
  rw [token?, nextChar?, hskip]
  show s.closeGroup?.map _ = none
  rw [State.closeGroup?, houter]
  rfl

theorem Reads.readAll_within (h : Reads s cs s') (base : Frame) (more : List Char) :
    readAll (s.within base) (cs ++ ')' :: more) = readAll (s'.within base) (')' :: more) := by
  induction h with
  | done h =>
      refine readAll_congr ?_
      rw [skipSpace_paren]
      exact (Prod.mk.inj (Option.some.inj (h.before more))).2
  | @token s _ _ cs _ h _ ih =>
      have hopen : ∀ after, skipSpace s.flags.extended (cs ++ ')' :: more) = ')' :: after →
          s.outer ≠ [] := fun after hskip houter =>
        nomatch (token?_paren houter after hskip).symm.trans (h.before more)
      have hwithin := token?_within hopen base
      rw [h.before more] at hwithin
      rw [readAll_of_token hwithin, ih]

/-- What is read of a text within an outer group that is closed there starts with what is read of a
part of it, up to the parenthesis that closes the group. -/
theorem exists_reads_of_readAll {fin : State} (h : readAll (s.within base) cs = some fin)
    (hfin : fin.outer = []) : ∃ front rest s', cs = front ++ ')' :: rest ∧ Reads s front s' ∧
      s'.outer = [] ∧ readAll (s'.within base) (')' :: rest) = some fin := by
  generalize hn : cs.length = n
  induction n using Nat.strongRecOn generalizing s cs with
  | ind n ih =>
      cases hskip : skipSpace s.flags.extended cs with
      | nil =>
          -- The outer group would still be open.
          rw [readAll_of_skip (s := s.within base) hskip] at h
          cases h
          exact absurd hfin (List.append_ne_nil_of_right_ne_nil _ (List.cons_ne_nil base []))
      | cons c after =>
          by_cases hclose : c = ')' ∧ s.outer = []
          · obtain ⟨rfl, houter⟩ := hclose
            obtain ⟨front, rfl⟩ := hskip ▸ skipSpace_suffix s.flags.extended cs
            obtain ⟨left, hleft, htakes⟩ := (local_skipSpace s.flags.extended).takes
              (congrArg (fun cs => some ((), cs)) hskip) List.suffix_rfl
            obtain rfl : left = [] := List.self_eq_append_left.mp hleft
            refine ⟨front, after, s, rfl, .done htakes, houter, ?_⟩
            rw [← h]
            refine (readAll_congr ?_).symm
            rw [skipSpace_paren]
            exact hskip
          · have hopen : ∀ after', skipSpace s.flags.extended cs = ')' :: after' → s.outer ≠ [] :=
              fun after' hparen houter =>
                hclose ⟨(List.cons.inj (hskip.symm.trans hparen)).1, houter⟩
            have hwithin := token?_within hopen base
            cases htoken : token? s cs with
            | none =>
                rw [htoken] at hwithin
                have hne : skipSpace s.flags.extended cs ≠ [] := hskip ▸ List.cons_ne_nil c after
                rw [readAll_of_none (s := s.within base) hne hwithin] at h
                cases h
            | some p =>
                rw [htoken] at hwithin
                rw [readAll_of_token hwithin] at h
                obtain ⟨front, rest, s', hrest, hreads, houter, hclosed⟩ :=
                  ih _ (hn ▸ length_lt_of_token? htoken) h rfl
                obtain ⟨taken, rfl⟩ := (localBut_token? s).suffix htoken
                rw [hrest, ← List.append_assoc] at htoken ⊢
                obtain ⟨left, hleft, htakes⟩ :=
                  (localBut_token? s).stops htoken (hrest ▸ List.suffix_append front _)
                obtain rfl : front = left := List.append_cancel_right (hrest.symm.trans hleft)
                refine ⟨taken ++ front, rest, s', rfl, ?_, houter, hclosed⟩
                rcases htakes with htakes | hstuck
                · exact .token htakes hreads
                · exact absurd hreads (not_reads_of_braceLeft hstuck)

/-! ### The anchors -/

/-- The text of a pattern with its anchors. -/
def pasted (cs : List Char) : List Char := '^' :: '(' :: '?' :: ':' :: (cs ++ ')' :: ['$'])

/-- The expression of a pattern with its anchors. -/
def anchor (r : Regex) : Regex := .seq (.look .start) (.seq r (.look .stop))

/-- What stands in front of the group of a pattern. -/
def opener : Frame := ⟨[.node ⟨.look .start, 0⟩], [], .initial⟩

/-- The state after the group of a pattern. -/
def State.closed (n : Node) (names : List (List Char)) : State :=
  ⟨.initial, opener.push (.node ⟨n.regex, n.depth + 1⟩), [], names⟩

theorem skipSpace_false (cs : List Char) : skipSpace false cs = cs := by
  cases cs with
  | nil => exact skipSpace_nil false
  | cons c cs => simp [skipSpace]

/-- Where blanks count, the next character is the next token. -/
theorem token?_cons (h : s.flags.extended = false) (c : Char) (cs : List Char) :
    token? s (c :: cs) = advance? s c cs := by
  rw [token?, nextChar?, h, skipSpace_false, Option.bind_some]

theorem readAll_pasted (cs : List Char) : readAll .initial (pasted cs) =
    readAll (State.initial.within opener) (cs ++ ')' :: ['$']) := by
  have hstart : token? .initial (pasted cs) = some (State.initial.pushRegex (.look .start),
      '(' :: '?' :: ':' :: (cs ++ ')' :: ['$'])) := token?_cons rfl _ _
  have hopen : token? (State.initial.pushRegex (.look .start))
      ('(' :: '?' :: ':' :: (cs ++ ')' :: ['$'])) =
        some (State.initial.within opener, cs ++ ')' :: ['$']) := by
    rw [token?_cons rfl, advance?_open, opening?_eq]
    dsimp only
    rw [show (State.initial.pushRegex (.look .start)).flags.extended = false from rfl,
      skipSpace_false]
    simp [openingTail?, flagGroup?, flags?, State.opened?]
    rfl
  rw [readAll_of_token hstart, readAll_of_token hopen]

theorem readAll_close (hs : s.outer = []) (hflags : s.frame.outerFlags = .initial)
    (rest : List Char) :
    readAll (s.within opener) (')' :: rest) = readAll (.closed s.frame.value s.names) rest := by
  refine readAll_of_token ?_
  rw [token?, nextChar?, skipSpace_paren]
  obtain ⟨flags, ⟨items, branches, outerFlags⟩, outer, names⟩ := s
  obtain rfl : outer = [] := hs
  obtain rfl : outerFlags = .initial := hflags
  rfl

theorem readAll_stop (n : Node) (names : List (List Char)) : readAll (.closed n names) ['$'] =
    some ((State.closed n names).pushRegex (.look .stop)) := by
  have hstop : token? (.closed n names) ['$'] =
      some ((State.closed n names).pushRegex (.look .stop), []) := token?_cons rfl _ _
  rw [readAll_of_token hstop, readAll_of_skip (skipSpace_nil _)]

theorem depth_closed (n : Node) (names : List (List Char)) :
    (State.closed n names).bottom.value.depth = n.depth + 2 := by
  show 1 + max (max 0 (n.depth + 1)) 0 = n.depth + 2
  omega

theorem value_closed (n : Node) (names : List (List Char)) :
    ((State.closed n names).pushRegex (.look .stop)).frame.value =
      ⟨anchor n.regex, n.depth + 2⟩ := by
  have hdepth : depthOf [0, n.depth + 1, 0] = n.depth + 2 := by
    show 1 + max (max (max 0 0) (n.depth + 1)) 0 = n.depth + 2
    omega
  rw [← hdepth]
  rfl

theorem parse?_eq_some_iff {r : Regex} : parse? cs = some r ↔
    ∃ s, readAll .initial cs = some s ∧ s.outer = [] ∧ s.frame.value.depth ≤ maxDepth ∧
      s.frame.value.regex = r := by
  rw [parse?, ← readAll]
  cases readAll .initial cs with
  | none => simp
  | some s => simp [and_assoc]

/-! ### Both cases -/

/-- The text is a pattern by itself, and so it is with its anchors. -/
structure Whole (cs : List Char) (n : Node) : Prop where
  reads : ∃ s, Reads .initial cs s ∧ s.outer = [] ∧ s.frame.value = n
  depth : n.depth + 2 ≤ maxDepth

/-- Flags in a group do not outlast it. -/
theorem outerFlags_of_readAll (h : readAll .initial cs = some s) (hs : s.outer = []) :
    s.frame.outerFlags = .initial := by
  have hfollows := (follows_of_readAll h).outerFlags
  rwa [State.bottom, hs] at hfollows

namespace Whole

variable {n : Node}

theorem parse? (h : Whole cs n) : Pattern.parse? cs = some n.regex := by
  obtain ⟨⟨s, hreads, houter, rfl⟩, hdepth⟩ := h
  exact parse?_eq_some_iff.mpr ⟨s, hreads.readAll_eq, houter, by omega, rfl⟩

/-- Nothing can follow a parenthesis that closes no group. -/
theorem parse?_append (h : Whole cs n) (more : List Char) :
    Pattern.parse? (cs ++ ')' :: more) = none := by
  obtain ⟨⟨s, hreads, houter, -⟩, -⟩ := h
  have hskip : skipSpace s.flags.extended (')' :: more) = ')' :: more := skipSpace_paren _ more
  have hnone : readAll .initial (cs ++ ')' :: more) = none := by
    rw [hreads.readAll_append, readAll_of_none _ (token?_paren houter more hskip)]
    rw [hskip]
    exact List.cons_ne_nil _ _
  refine Option.eq_none_iff_forall_ne_some.mpr fun r hr => ?_
  obtain ⟨s', hs', -⟩ := parse?_eq_some_iff.mp hr
  cases hnone.symm.trans hs'

theorem anchored (h : Whole cs n) : Pattern.parse? (pasted cs) = some (anchor n.regex) := by
  obtain ⟨⟨s, hreads, houter, rfl⟩, hdepth⟩ := h
  have hflags := outerFlags_of_readAll hreads.readAll_eq houter
  refine parse?_eq_some_iff.mpr
    ⟨(State.closed s.frame.value s.names).pushRegex (.look .stop), ?_, rfl, ?_, ?_⟩
  · rw [readAll_pasted, hreads.readAll_within, readAll_close houter hflags, readAll_stop]
  · rwa [value_closed]
  · rw [value_closed]

end Whole

/-- A parenthesis that is followed by another one and by nothing else is the first or the second of
the two, or comes before them. -/
theorem append_anchor_cases {front : List Char} (h : cs ++ ')' :: ['$'] = front ++ ')' :: rest) :
    cs = front ∧ rest = ['$'] ∨ ∃ back, cs = front ++ ')' :: back := by
  rcases List.append_eq_append_iff.mp h with ⟨left, rfl, hleft⟩ | ⟨left, rfl, hleft⟩
  · cases left with
    | nil => exact .inl ⟨(List.append_nil cs).symm, (List.cons.inj hleft).2.symm⟩
    | cons c left =>
        have hleft := (List.cons.inj hleft).2
        cases left with
        | nil => exact absurd (List.cons.inj hleft).1 (by decide)
        | cons d left => exact absurd (List.cons.inj hleft).2 (by simp)
  · cases left with
    | nil => exact .inl ⟨List.append_nil front, (List.cons.inj hleft).2⟩
    | cons c left =>
        obtain rfl : ')' = c := (List.cons.inj hleft).1
        exact .inr ⟨left, rfl⟩

/-- A pattern that can be anchored is one by itself, or a parenthesis in it closes the group of the
anchor. -/
theorem whole_or_split {r : Regex} (h : parse? (pasted cs) = some r) :
    (∃ n, Whole cs n ∧ r = anchor n.regex) ∨
      ∃ front back n, cs = front ++ ')' :: back ∧ Whole front n := by
  obtain ⟨fin, hfin, houter, hdepth, rfl⟩ := parse?_eq_some_iff.mp h
  rw [readAll_pasted] at hfin
  obtain ⟨front, rest, s, hsplit, hreads, hs, hclosed⟩ := exists_reads_of_readAll hfin houter
  have hflags := outerFlags_of_readAll hreads.readAll_eq hs
  rw [readAll_close hs hflags] at hclosed
  have hwhole : Whole front s.frame.value := by
    have hle := (follows_of_readAll hclosed).depth_le
    rw [depth_closed, State.bottom, houter] at hle
    exact ⟨⟨s, hreads, hs, rfl⟩, Nat.le_trans hle hdepth⟩
  rcases append_anchor_cases hsplit with ⟨rfl, rfl⟩ | ⟨back, rfl⟩
  · rw [readAll_stop] at hclosed
    cases hclosed
    exact .inl ⟨_, hwhole, congrArg Node.regex (value_closed _ _)⟩
  · exact .inr ⟨front, back, _, rfl, hwhole⟩

end AlertRouter.Regex.Pattern

namespace AlertRouter.Regex

open Pattern

variable {pattern : String} {q r : Regex}

/-! ### Patterns as texts -/

theorem anchored?_eq (pattern : String) :
    anchored? pattern = Pattern.parse? (pasted pattern.toList) := by
  rw [anchored?, pasted]
  congr 1

/-- The loops of a pattern have their bounds in order. -/
theorem bounded_of_anchored? (h : anchored? pattern = some r) : r.Bounded := by
  rw [anchored?_eq] at h
  obtain ⟨s, hs, -, -, rfl⟩ := parse?_eq_some_iff.mp h
  exact bounded_of_readAll hs

/-- A pattern that is one by itself is anchored as such. -/
theorem eq_anchor_of_parse? (h : anchored? pattern = some r) (hq : parse? pattern = some q) :
    r = anchor q := by
  rw [anchored?_eq] at h
  rcases whole_or_split h with ⟨n, hn, rfl⟩ | ⟨front, back, n, hsplit, hn⟩
  · rw [Option.some.inj (hn.parse?.symm.trans hq)]
  · have hnone := hn.parse?_append back
    rw [← hsplit] at hnone
    cases hnone.symm.trans hq

/-- A pattern that can be anchored is none by itself iff a parenthesis in it closes the group of the
anchor. -/
theorem parse?_eq_none_iff (h : anchored? pattern = some r) : parse? pattern = none ↔
    ∃ front back, pattern = front ++ ")" ++ back ∧ (anchored? front).isSome := by
  rw [anchored?_eq] at h
  constructor
  · intro hnone
    rcases whole_or_split h with ⟨n, hn, rfl⟩ | ⟨front, back, n, hsplit, hn⟩
    · cases hnone.symm.trans hn.parse?
    · refine ⟨String.ofList front, String.ofList back, String.toList_injective ?_, ?_⟩
      · simpa using hsplit
      · rw [anchored?_eq, String.toList_ofList, hn.anchored]
        rfl
  · rintro ⟨front, back, rfl, hfront⟩
    have happend : (front ++ ")" ++ back).toList = front.toList ++ ')' :: back.toList := by simp
    obtain ⟨r', hr'⟩ := Option.isSome_iff_exists.mp hfront
    rw [anchored?_eq] at hr'
    rw [parse?, happend]
    rcases whole_or_split hr' with ⟨n, hn, -⟩ | ⟨front', back', n, hsplit, hn⟩
    · exact hn.parse?_append back.toList
    · rw [hsplit, List.append_assoc]
      exact hn.parse?_append (back' ++ ')' :: back.toList)

end AlertRouter.Regex
