import AlertRouter.Proofs.Regex.Matches
import AlertRouter.Proofs.Regex.Token

/-! # Reading a pattern

`readAll` reads a pattern to its end, token by token.  Where the tokens of a text end cleanly, they
are the same in front of a closing parenthesis (`Reads`, `Reads.readAll_append`).

A token changes the innermost group, opens one or closes it (`Moves`).  So what a token preserves is
preserved by the whole reading (`readAll_invariant`): the bounds of all loops are in order
(`bounded_of_readAll`), and the expression of the outermost group gets no less deep
(`follows_of_readAll`). -/

namespace AlertRouter.Regex.Pattern

variable {s s' : State} {cs rest : List Char} {c : Char}

/-! ### Reading to the end -/

/-- What is read from a state on. -/
def readAll (s : State) (cs : List Char) : Option State := readFrom (cs.length + 1) s cs

theorem readFrom_of_skip (h : skipSpace s.flags.extended cs = []) (fuel : Nat) :
    readFrom (fuel + 1) s cs = some s := by
  rw [readFrom, h]

theorem readFrom_of_token (h : token? s cs = some (s', rest)) (fuel : Nat) :
    readFrom (fuel + 1) s cs = readFrom fuel s' rest := by
  rw [token?, nextChar?] at h
  rw [readFrom]
  cases hskip : skipSpace s.flags.extended cs with
  | nil =>
      rw [hskip] at h
      cases h
  | cons c cs =>
      rw [hskip, Option.bind_some] at h
      dsimp only
      rw [h]

theorem readFrom_of_none (hskip : skipSpace s.flags.extended cs ≠ []) (h : token? s cs = none)
    (fuel : Nat) : readFrom (fuel + 1) s cs = none := by
  obtain ⟨c, rest, hc⟩ := List.exists_cons_of_ne_nil hskip
  rw [token?, nextChar?, hc, Option.bind_some] at h
  rw [readFrom, hc]
  dsimp only
  rw [h]

/-- More fuel than there are characters makes no difference. -/
theorem readFrom_eq_readAll {fuel : Nat} (h : cs.length < fuel) :
    readFrom fuel s cs = readAll s cs := by
  unfold readAll
  generalize hn : cs.length = n at h
  induction n using Nat.strongRecOn generalizing s cs fuel with
  | ind n ih =>
      obtain ⟨fuel, rfl⟩ := Nat.exists_eq_add_one_of_ne_zero (Nat.ne_zero_of_lt h)
      by_cases hskip : skipSpace s.flags.extended cs = []
      · rw [readFrom_of_skip hskip, readFrom_of_skip hskip]
      · cases htoken : token? s cs with
        | none => rw [readFrom_of_none hskip htoken, readFrom_of_none hskip htoken]
        | some p =>
            have hlt : p.2.length < n := hn ▸ length_lt_of_token? htoken
            rw [readFrom_of_token htoken, readFrom_of_token htoken,
              ih _ hlt rfl (Nat.lt_of_lt_of_le hlt (Nat.le_of_lt_succ h)), ih _ hlt rfl hlt]

theorem readAll_of_skip (h : skipSpace s.flags.extended cs = []) : readAll s cs = some s :=
  readFrom_of_skip h _

theorem readAll_of_token (h : token? s cs = some (s', rest)) : readAll s cs = readAll s' rest :=
  (readFrom_of_token h _).trans (readFrom_eq_readAll (length_lt_of_token? h))

theorem readAll_of_none (hskip : skipSpace s.flags.extended cs ≠ []) (h : token? s cs = none) :
    readAll s cs = none :=
  readFrom_of_none hskip h _

/-- Blanks and comments in front make no difference. -/
theorem readAll_congr {cs' : List Char}
    (h : skipSpace s.flags.extended cs = skipSpace s.flags.extended cs') :
    readAll s cs = readAll s cs' := by
  have htoken : token? s cs = token? s cs' := by rw [token?, token?, nextChar?, nextChar?, h]
  by_cases hskip : skipSpace s.flags.extended cs = []
  · rw [readAll_of_skip hskip, readAll_of_skip (h ▸ hskip)]
  · cases hfirst : token? s cs with
    | none => rw [readAll_of_none hskip hfirst, readAll_of_none (h ▸ hskip) (htoken ▸ hfirst)]
    | some p => exact (readAll_of_token hfirst).trans (readAll_of_token (htoken ▸ hfirst)).symm

/-! ### Clean ends -/

/-- From `s` the tokens of `cs` lead to `s'`, if `cs` stands alone and if a closing parenthesis
follows it. -/
inductive Reads : State → List Char → State → Prop
  | done {s : State} {cs : List Char}
      (h : Takes (fun cs => some ((), skipSpace s.flags.extended cs)) cs () []) : Reads s cs s
  | token {s s' s'' : State} {cs rest : List Char} (h : Takes (token? s) cs s' rest)
      (h' : Reads s' rest s'') : Reads s cs s''

theorem Reads.readAll_eq (h : Reads s cs s') : readAll s cs = some s' := by
  induction h with
  | done h => exact readAll_of_skip (Prod.mk.inj (Option.some.inj h.alone)).2
  | token h _ ih => rw [readAll_of_token h.alone, ih]

theorem Reads.readAll_append (h : Reads s cs s') (more : List Char) :
    readAll s (cs ++ ')' :: more) = readAll s' (')' :: more) := by
  induction h with
  | done h =>
      refine readAll_congr ?_
      rw [skipSpace_paren]
      exact (Prod.mk.inj (Option.some.inj (h.before more))).2
  | token h _ ih => rw [readAll_of_token (h.before more), ih]

/-- Nothing can be read after a brace that is left alone. -/
theorem not_reads_of_braceLeft (h : BraceLeft s cs) : ¬ Reads s cs s' := by
  intro hreads
  cases hreads with
  | done hdone =>
      obtain ⟨rest, rfl, -⟩ := h
      have hnil := (Prod.mk.inj (Option.some.inj hdone.alone)).2
      rw [skipSpace_brace] at hnil
      cases hnil
  | token htoken _ => cases (token?_eq_none h).symm.trans htoken.alone

/-! ### What a token does -/

/-- What is done to a group: an item comes last, or the next alternative starts, or the last item is
repeated. -/
inductive Frame.Grows : Frame → Frame → Prop
  | push {frame : Frame} {i : Item} (h : i.regex.Bounded) : Grows frame (frame.push i)
  | branch {frame : Frame} : Grows frame frame.branch
  | repeatLast {frame frame' : Frame} {least : Nat} {most : Option Nat}
      (h : frame.repeatLast? least most = some frame') (hmost : ∀ m, most = some m → least ≤ m) :
      Grows frame frame'

/-- What a token does: something to the innermost group, with other flags maybe, or it opens a group
or closes one. -/
inductive Moves : State → State → Prop
  | grow {s : State} {frame : Frame} (h : s.frame.Grows frame) (f : Flags) :
      Moves s { s with flags := f, frame := frame }
  | opened {s : State} (f : Flags) (names : List (List Char)) :
      Moves s { s.openGroup f with names := names }
  | closed {s s' : State} (h : s.closeGroup? = some s') : Moves s s'

theorem Moves.pushRegex {r : Regex} (hr : r.Bounded) : Moves s (s.pushRegex r) :=
  .grow (.push (i := .node ⟨r, 0⟩) hr) s.flags

theorem Moves.opened? {o : Opening} (h : s.opened? o = some s') : Moves s s' := by
  cases o with
  | named name =>
      rw [State.opened?] at h
      split at h
      · cases h
      · cases h
        exact .opened s.flags (name :: s.names)
  | plain =>
      cases h
      exact .opened s.flags s.names
  | withFlags f =>
      cases h
      exact .opened f s.names
  | setFlags f =>
      cases h
      exact .grow (.push (i := .flags) trivial) f

theorem Moves.repeated {least : Nat} {most : Option Nat} (hmost : ∀ m, most = some m → least ≤ m)
    (h : ((s.frame.repeatLast? least most).map fun frame => (s.update frame, dropLazy cs)) =
      some (s', rest)) : Moves s s' := by
  obtain ⟨frame, hframe, h⟩ := Option.map_eq_some_iff.mp h
  cases h
  exact .grow (.repeatLast hframe hmost) s.flags

/-- The bounds of a repetition are read in order. -/
theorem bounds_of_bounds? {f : Flags} {least : Nat} {most : Option Nat}
    (h : bounds? f cs = some ((least, most), rest)) : ∀ m, most = some m → least ≤ m := by
  simp only [bounds?_eq] at h
  obtain ⟨⟨least', left⟩, -, h⟩ := Option.bind_eq_some_iff.mp h
  unfold boundsTail? at h
  split at h
  · cases h
    rintro m ⟨⟩
    exact Nat.le_refl _
  · split at h
    · dsimp only at h
      split at h
      · cases h
        exact nofun
      · obtain ⟨⟨most', left⟩, -, h⟩ := Option.bind_eq_some_iff.mp h
        dsimp only at h
        split at h
        · obtain ⟨b, hb, h⟩ := Option.map_eq_some_iff.mp h
          split at hb
          · next hle =>
              cases hb
              cases h
              rintro m ⟨⟩
              exact hle
          · cases hb
        · cases h
    · cases h

theorem bounded_of_dot? {f : Flags} {r : Regex} (h : dot? f = some r) : r.Bounded := by
  unfold dot? at h
  split at h
  · cases h
  · split at h
    · cases h
      exact trivial
    · split at h
      · cases h
        exact trivial
      · cases h
        exact trivial

theorem bounded_primitive (f : Flags) (p : Primitive) : (primitive f p).Bounded := by
  cases p with
  | literal c => exact trivial
  | «class» s => exact trivial
  | assertion l => exact trivial

theorem moves_of_advance? (h : advance? s c cs = some (s', rest)) : Moves s s' := by
  have hmap {α : Type} {o : Option α} {k : α → State} {r : α → List Char}
      (h : (o.map fun a => (k a, r a)) = some (s', rest)) : ∃ a, o = some a ∧ k a = s' := by
    obtain ⟨a, ha, h⟩ := Option.map_eq_some_iff.mp h
    exact ⟨a, ha, (Prod.mk.inj h).1⟩
  have hopen (h : advance? s '(' cs = some (s', rest)) : Moves s s' := by
    rw [advance?_open] at h
    obtain ⟨p, -, h⟩ := Option.bind_eq_some_iff.mp h
    obtain ⟨s', hs, rfl⟩ := hmap h
    exact .opened? hs
  unfold advance? at h
  dsimp only at h
  split at h
  · exact hopen h
  · obtain ⟨s', hs, rfl⟩ := hmap h
    exact .closed hs
  · cases h
    exact .grow .branch s.flags
  · obtain ⟨set, -, rfl⟩ := hmap h
    exact .grow (.push (i := .node ⟨.chars set.1, 1⟩) trivial) s.flags
  · exact .repeated (by simp) h
  · exact .repeated (by simp) h
  · exact .repeated (by simp) h
  · obtain ⟨⟨⟨least, most⟩, left⟩, hbounds, h⟩ := Option.bind_eq_some_iff.mp h
    exact .repeated (bounds_of_bounds? hbounds) h
  · obtain ⟨r, hr, rfl⟩ := hmap h
    exact .pushRegex (bounded_of_dot? hr)
  · cases h
    exact .pushRegex trivial
  · cases h
    exact .pushRegex trivial
  · obtain ⟨p, -, rfl⟩ := hmap h
    exact .pushRegex (bounded_primitive s.flags p.1)
  · cases h
    exact .pushRegex trivial

theorem moves_of_token? (h : token? s cs = some (s', rest)) : Moves s s' := by
  obtain ⟨p, -, h⟩ := Option.bind_eq_some_iff.mp h
  exact moves_of_advance? h

/-- What every token preserves is preserved by the whole reading. -/
theorem readAll_invariant {P : State → Prop} (hP : ∀ {s s'}, Moves s s' → P s → P s')
    (h : readAll s cs = some s') (hs : P s) : P s' := by
  generalize hn : cs.length = n
  induction n using Nat.strongRecOn generalizing s cs with
  | ind n ih =>
      by_cases hskip : skipSpace s.flags.extended cs = []
      · rw [readAll_of_skip hskip] at h
        cases h
        exact hs
      · cases htoken : token? s cs with
        | none =>
            rw [readAll_of_none hskip htoken] at h
            cases h
        | some p =>
            rw [readAll_of_token htoken] at h
            exact ih _ (hn ▸ length_lt_of_token? htoken) h (hP (moves_of_token? htoken) hs) rfl

/-! ### The bounds of loops -/

/-- The bounds of all loops in the group are in order. -/
structure Frame.Bounded (frame : Frame) : Prop where
  items : ∀ i ∈ frame.items, i.regex.Bounded
  branches : ∀ n ∈ frame.branches, n.regex.Bounded

theorem bounded_foldl {α : Type} {k : Regex → α → Regex} {P : α → Prop}
    (hk : ∀ {r a}, r.Bounded → P a → (k r a).Bounded) {l : List α} {r : Regex} (hr : r.Bounded)
    (hl : ∀ a ∈ l, P a) : (l.foldl k r).Bounded := by
  induction l generalizing r with
  | nil => exact hr
  | cons a l ih =>
      obtain ⟨ha, hl⟩ := List.forall_mem_cons.mp hl
      exact ih (hk hr ha) hl

theorem bounded_sequence {items : List Item} (h : ∀ i ∈ items, i.regex.Bounded) :
    (sequence items).regex.Bounded := by
  cases items with
  | nil => exact trivial
  | cons last front =>
      obtain ⟨hlast, hfront⟩ := List.forall_mem_cons.mp h
      refine bounded_foldl (k := fun r (i : Item) => .seq i.regex r)
        (P := fun i => i.regex.Bounded) ?_ hlast hfront
      exact fun hr hi => ⟨hi, hr⟩

theorem bounded_alternatives {branches : List Node} (h : ∀ n ∈ branches, n.regex.Bounded) :
    (alternatives branches).regex.Bounded := by
  cases branches with
  | nil => exact trivial
  | cons last front =>
      obtain ⟨hlast, hfront⟩ := List.forall_mem_cons.mp h
      refine bounded_foldl (k := fun r (n : Node) => .alt n.regex r)
        (P := fun n => n.regex.Bounded) ?_ hlast hfront
      exact fun hr hn => ⟨hn, hr⟩

theorem Frame.Bounded.value {frame : Frame} (h : frame.Bounded) : frame.value.regex.Bounded := by
  unfold Frame.value
  split
  · exact bounded_sequence h.items
  · exact bounded_alternatives
      (List.forall_mem_cons.mpr ⟨bounded_sequence h.items, h.branches⟩)

theorem Frame.Grows.bounded {frame frame' : Frame} (h : frame.Grows frame')
    (hframe : frame.Bounded) : frame'.Bounded := by
  cases h with
  | push hi => exact ⟨List.forall_mem_cons.mpr ⟨hi, hframe.items⟩, hframe.branches⟩
  | branch =>
      exact ⟨nofun, List.forall_mem_cons.mpr ⟨bounded_sequence hframe.items, hframe.branches⟩⟩
  | repeatLast h hmost =>
      unfold Frame.repeatLast? at h
      split at h
      · next n rest hitems =>
          cases h
          have hall := hframe.items
          rw [hitems] at hall
          obtain ⟨hn, hrest⟩ := List.forall_mem_cons.mp hall
          exact ⟨List.forall_mem_cons.mpr ⟨⟨hn, hmost⟩, hrest⟩, hframe.branches⟩
      · cases h

/-- The bounds of all loops are in order, in all groups that are open. -/
def State.Bounded (s : State) : Prop := ∀ frame ∈ s.frame :: s.outer, frame.Bounded

theorem Moves.bounded (h : Moves s s') (hs : s.Bounded) : s'.Bounded := by
  obtain ⟨hframe, houter⟩ := List.forall_mem_cons.mp hs
  cases h with
  | grow hgrows f => exact List.forall_mem_cons.mpr ⟨hgrows.bounded hframe, houter⟩
  | opened f names => exact List.forall_mem_cons.mpr ⟨⟨nofun, nofun⟩, hs⟩
  | closed hclosed =>
      unfold State.closeGroup? at hclosed
      split at hclosed
      · cases hclosed
      · next parent outer heq =>
          cases hclosed
          rw [heq] at houter
          obtain ⟨hparent, houter⟩ := List.forall_mem_cons.mp houter
          have hgrows : parent.Grows
              (parent.push (.node ⟨s.frame.value.regex, s.frame.value.depth + 1⟩)) :=
            .push hframe.value
          exact List.forall_mem_cons.mpr ⟨hgrows.bounded hparent, houter⟩

/-- **The bounds of all loops of a pattern are in order.** -/
theorem bounded_of_readAll (h : readAll .initial cs = some s) : s.frame.value.regex.Bounded := by
  have hinitial : State.Bounded .initial := by
    intro frame hframe
    rw [List.mem_singleton.mp hframe]
    exact ⟨nofun, nofun⟩
  have hs : s.Bounded := readAll_invariant Moves.bounded h hinitial
  exact (List.forall_mem_cons.mp hs).1.value

/-! ### The outermost group -/

theorem foldl_max_le_foldl_max {d e : Nat} (h : d ≤ e) (ds : List Nat) :
    ds.foldl max d ≤ ds.foldl max e := by
  induction ds generalizing d e with
  | nil => exact h
  | cons a ds ih => exact ih (by omega)

/-- One more part makes nothing less deep, nor does a deeper part. -/
theorem depthOf_le_cons (d : Nat) (ds : List Nat) : depthOf ds ≤ depthOf (d :: ds) := by
  match ds with
  | [] => exact Nat.zero_le _
  | [a] =>
      show a ≤ 1 + max (max 0 d) a
      omega
  | a :: b :: ds => exact Nat.add_le_add_left (foldl_max_le_foldl_max (by omega) ds) 1

theorem depthOf_cons_le_cons {d e : Nat} (h : d ≤ e) (ds : List Nat) :
    depthOf (d :: ds) ≤ depthOf (e :: ds) := by
  cases ds with
  | nil => exact h
  | cons a ds => exact Nat.add_le_add_left (foldl_max_le_foldl_max (by omega) ds) 1

/-- The group is no less deep than it was, and sets the same flags at its end. -/
structure Frame.Follows (frame frame' : Frame) : Prop where
  depth_le : frame.value.depth ≤ frame'.value.depth
  outerFlags : frame'.outerFlags = frame.outerFlags

theorem Frame.Follows.refl (frame : Frame) : frame.Follows frame := ⟨Nat.le_refl _, rfl⟩

theorem Frame.Follows.trans {frame frame' frame'' : Frame} (h : frame.Follows frame')
    (h' : frame'.Follows frame'') : frame.Follows frame'' :=
  ⟨Nat.le_trans h.depth_le h'.depth_le, h'.outerFlags.trans h.outerFlags⟩

/-- A group is as deep as its last sequence makes it. -/
theorem Frame.depth_value_le {items items' : List Item}
    (h : (sequence items).depth ≤ (sequence items').depth) (branches : List Node) (f : Flags) :
    (Frame.mk items branches f).value.depth ≤ (Frame.mk items' branches f).value.depth := by
  unfold Frame.value
  dsimp only
  split
  · exact h
  · exact depthOf_cons_le_cons h _

theorem Frame.follows_push (frame : Frame) (i : Item) : frame.Follows (frame.push i) := by
  have h : (sequence frame.items).depth ≤ (sequence (i :: frame.items)).depth :=
    depthOf_le_cons _ _
  exact ⟨Frame.depth_value_le h frame.branches frame.outerFlags, rfl⟩

theorem Frame.follows_branch (frame : Frame) : frame.Follows frame.branch := by
  obtain ⟨items, branches, f⟩ := frame
  refine ⟨?_, rfl⟩
  have h : depthOf ((sequence items :: branches).map Node.depth) ≤
      (Frame.mk items branches f).branch.value.depth := depthOf_le_cons _ _
  refine Nat.le_trans ?_ h
  cases branches with
  | nil => exact Nat.le_refl _
  | cons n branches => exact Nat.le_refl _

theorem Frame.follows_repeatLast {frame frame' : Frame} {least : Nat} {most : Option Nat}
    (h : frame.repeatLast? least most = some frame') : frame.Follows frame' := by
  obtain ⟨items, branches, f⟩ := frame
  unfold Frame.repeatLast? at h
  dsimp only at h
  split at h
  · next n rest =>
      cases h
      have h : (sequence (.node n :: rest)).depth ≤
          (sequence (.node ⟨.loop n.regex least most, n.depth + 1⟩ :: rest)).depth :=
        depthOf_cons_le_cons (Nat.le_succ _) _
      exact ⟨Frame.depth_value_le h branches f, rfl⟩
  · cases h

theorem Frame.Grows.follows {frame frame' : Frame} (h : frame.Grows frame') :
    frame.Follows frame' := by
  cases h with
  | push h => exact frame.follows_push _
  | branch => exact frame.follows_branch
  | repeatLast h hmost => exact Frame.follows_repeatLast h

/-- The outermost group. -/
def State.bottom (s : State) : Frame := s.outer.getLastD s.frame

theorem Moves.follows (h : Moves s s') : s.bottom.Follows s'.bottom := by
  obtain ⟨flags, frame, outer, names⟩ := s
  cases h with
  | grow hgrows f =>
      cases outer with
      | nil => exact hgrows.follows
      | cons parent outer => exact .refl _
  | opened f names =>
      cases outer with
      | nil => exact .refl frame
      | cons parent outer => exact .refl _
  | closed hclosed =>
      cases outer with
      | nil => cases hclosed
      | cons parent outer =>
          cases hclosed
          cases outer with
          | nil => exact parent.follows_push _
          | cons parent' outer => exact .refl _

theorem follows_of_readAll (h : readAll s cs = some s') : s.bottom.Follows s'.bottom :=
  readAll_invariant (P := fun t => s.bottom.Follows t.bottom)
    (fun hmoves ht => ht.trans hmoves.follows) h (.refl _)

end AlertRouter.Regex.Pattern
