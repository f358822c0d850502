import AlertRouter.Proofs.Regex.Escape
import AlertRouter.Regex.Pattern.Class

/-! # Bracketed classes are read locally

A class is read item by item in a loop (`classRound`).  Its items are local but for two things that
they may leave and that are no end of a class: nothing at all, and a hyphen that only blanks and
comments follow (`Lone`).  The loop cannot go on with either, so the class as a whole is local
(`local_class?`). -/

namespace AlertRouter.Regex.Pattern

variable {f : Flags} {cs rest : List Char}

/-! ### Named classes -/

/-- The class of a name between `[:` and `:]`. -/
def className? (f : Flags) (negated : Bool) (name : List Char) : Option CharSet :=
  (CharSet.named? (String.ofList name)).bind fun s =>
    if negated then (if f.unicode then some (.compl s) else none) else some s

/-- The names of classes are made of letters. -/
theorem paren_notMem_of_className? {negated : Bool} {name : List Char} {s : CharSet}
    (h : className? f negated name = some s) : ')' ∉ name := by
  obtain ⟨s', hs', -⟩ := Option.bind_eq_some_iff.mp h
  have hname {t : String} (ht : String.ofList name = t) : name = t.toList := by
    rw [← ht, String.toList_ofList]
  unfold CharSet.named? at hs'
  split at hs'
  case h_15 => cases hs'
  all_goals
    rename_i ht
    rw [hname ht]
    decide

/-- A name, a colon and a bracket. -/
def nameTail? (f : Flags) (negated : Bool) : Reader CharSet := fun cs =>
  (cut? ':' cs).bind fun p => match p.2 with
    | ']' :: rest => (className? f negated p.1).map (·, rest)
    | _ => none

theorem nameTail?_eq_some_iff {negated : Bool} {s : CharSet} :
    nameTail? f negated cs = some (s, rest) ↔
      ∃ name, cs = name ++ ':' :: ']' :: rest ∧ ':' ∉ name ∧
        className? f negated name = some s := by
  unfold nameTail?
  rw [Option.bind_eq_some_iff]
  constructor
  · rintro ⟨⟨name, back⟩, hcut, h⟩
    obtain ⟨rfl, hname⟩ := cut?_eq_some_iff.mp hcut
    dsimp only at h
    split at h
    · obtain ⟨s, hs, h⟩ := Option.map_eq_some_iff.mp h
      cases h
      exact ⟨name, rfl, hname, hs⟩
    · cases h
  · rintro ⟨name, rfl, hname, hs⟩
    refine ⟨(name, ']' :: rest), cut?_eq_some_iff.mpr ⟨rfl, hname⟩, ?_⟩
    dsimp only
    rw [hs]
    rfl

theorem nameTail?_eq (f : Flags) (negated : Bool) (cs : List Char) : nameTail? f negated cs =
    match cs.drop (cs.takeWhile (· != ':')).length with
    | ':' :: ']' :: rest =>
      (CharSet.named? (String.ofList (cs.takeWhile (· != ':')))).bind fun s =>
        if negated then (if f.unicode then some (.compl s, rest) else none) else some (s, rest)
    | _ => none := by
  cases hcut : cut? ':' cs with
  | none => rw [nameTail?, hcut, drop_takeWhile_of_cut? hcut, Option.bind_none]
  | some p =>
      obtain ⟨name, back⟩ := p
      obtain ⟨htake, hdrop⟩ := takeWhile_of_cut? hcut
      rw [nameTail?, hcut, htake, hdrop, Option.bind_some]
      cases back with
      | nil => rfl
      | cons c rest =>
          by_cases hc : c = ']'
          · subst hc
            simp only [className?]
            cases CharSet.named? (String.ofList name) with
            | none => rfl
            | some s => cases negated <;> cases f.unicode <;> rfl
          · simp [hc]

theorem asciiClass?_negated (f : Flags) (cs : List Char) :
    asciiClass? f (':' :: '^' :: cs) = nameTail? f true cs := by
  rw [nameTail?_eq]
  rfl

theorem asciiClass?_colon (f : Flags) (h : cs.head? ≠ some '^') :
    asciiClass? f (':' :: cs) = nameTail? f false cs := by
  cases cs with
  | nil => rfl
  | cons c cs =>
      have hc : c ≠ '^' := fun hc => h (congrArg some hc)
      simp only [asciiClass?, List.cons.injEq, hc, false_and, imp_self, implies_true]
      exact (nameTail?_eq f false (c :: cs)).symm

/-- What is read as a named class has no parenthesis in it and is read the same whatever follows. -/
theorem exists_append_of_asciiClass? {s : CharSet} (h : asciiClass? f cs = some (s, rest)) :
    ∃ taken, cs = taken ++ rest ∧ ')' ∉ taken ∧
      ∀ more, asciiClass? f (taken ++ more) = some (s, more) := by
  cases cs with
  | nil => cases h
  | cons c cs =>
      by_cases hc : c = ':'
      · subst hc
        by_cases hhead : cs.head? = some '^'
        · obtain ⟨cs, rfl⟩ := List.head?_eq_some_iff.mp hhead
          rw [asciiClass?_negated, nameTail?_eq_some_iff] at h
          obtain ⟨name, rfl, hname, hs⟩ := h
          refine ⟨':' :: '^' :: (name ++ [':', ']']), by simp, ?_, fun more => ?_⟩
          · simpa using paren_notMem_of_className? hs
          · rw [List.cons_append, List.cons_append, asciiClass?_negated, nameTail?_eq_some_iff]
            exact ⟨name, by simp, hname, hs⟩
        · rw [asciiClass?_colon f hhead, nameTail?_eq_some_iff] at h
          obtain ⟨name, rfl, hname, hs⟩ := h
          refine ⟨':' :: (name ++ [':', ']']), by simp, ?_, fun more => ?_⟩
          · simpa using paren_notMem_of_className? hs
          · have hhead' : (name ++ [':', ']'] ++ more).head? ≠ some '^' := by
              cases name with
              | nil => simp
              | cons d name => simpa using hhead
            rw [List.cons_append, asciiClass?_colon f hhead', nameTail?_eq_some_iff]
            exact ⟨name, by simp, hname, hs⟩
      · unfold asciiClass? at h
        split at h
        · next heq => exact absurd (List.cons.inj heq).1 hc
        · cases h

/-- Whether there is a named class does not depend on what follows from a parenthesis on. -/
theorem asciiClass?_append (f : Flags) (cs more : List Char) :
    asciiClass? f (cs ++ ')' :: more) =
      (asciiClass? f cs).map fun p => (p.1, p.2 ++ ')' :: more) := by
  cases halone : asciiClass? f cs with
  | some p =>
      obtain ⟨s, rest⟩ := p
      obtain ⟨taken, rfl, -, htaken⟩ := exists_append_of_asciiClass? halone
      rw [List.append_assoc]
      exact htaken _
  | none =>
      cases hbefore : asciiClass? f (cs ++ ')' :: more) with
      | none => rfl
      | some p =>
          obtain ⟨s, rest⟩ := p
          obtain ⟨taken, happend, hparen, htaken⟩ := exists_append_of_asciiClass? hbefore
          have hprefix : taken <+: cs ++ ')' :: more := ⟨rest, happend.symm⟩
          obtain ⟨cs', rfl⟩ := (prefix_append_iff hparen).mp hprefix
          rw [htaken cs'] at halone
          cases halone

/-! ### The start of a class -/

/-- A text that has to be there. -/
def nonempty {α : Type} (a : α) : Reader α := fun cs => if cs.isEmpty then none else some (a, cs)

theorem localBut_nonempty {α : Type} (a : α) : LocalBut (fun _ left => left = []) (nonempty a) where
  suffix {cs _ _} h := by
    unfold nonempty at h
    split at h
    · cases h
    · cases h
      exact List.suffix_rfl
  stops {cs z _ _} h _ := by
    cases cs with
    | nil =>
        cases h
        exact ⟨[], rfl, .inr rfl⟩
    | cons c cs =>
        cases h
        exact ⟨c :: cs, rfl, .inl ⟨rfl, fun _ => rfl⟩⟩

theorem leadingHyphens_eq (f : Flags) (cs : List Char) : leadingHyphens f cs =
    ((cs.takeWhile (· == '-')).length, cs.dropWhile (· == '-')) := by
  induction cs with
  | nil => rfl
  | cons c cs ih =>
      by_cases hc : c = '-'
      · subst hc
        rw [leadingHyphens, ih]
        rfl
      · have hne : (c == '-') = false := beq_eq_false_iff_ne.mpr hc
        rw [leadingHyphens, List.takeWhile_cons, List.dropWhile_cons, hne]
        · rfl
        · intro cs' h
          exact hc (List.cons.inj h).1

theorem local_leadingHyphens (f : Flags) : Local fun cs => some (leadingHyphens f cs) := by
  simp only [leadingHyphens_eq]
  exact LocalBut.map (S := fun _ _ => False) (k := List.length) (local_span (p := (· == '-')) rfl)

/-- What stands first in a class, after its hyphens. -/
def openTail (f : Flags) (negated : Bool) (hyphens : Nat) : Reader OpenClass := fun cs =>
  if hyphens = 0 then
    if [']'] <+: cs then
      nonempty ⟨negated, none, .single ']'⟩ (skipSpace f.extended (cs.drop [']'].length))
    else nonempty ⟨negated, none, .none⟩ cs
  else nonempty ⟨negated, none, .single '-'⟩ cs

theorem localBut_openTail (f : Flags) (negated : Bool) (hyphens : Nat) :
    LocalBut (fun _ left => left = []) (openTail f negated hyphens) :=
  .ite (hyphens = 0)
    (.ifPrefix (by decide) ((localBut_nonempty _).skip f.extended) (localBut_nonempty _))
    (localBut_nonempty _)

def openRest (f : Flags) (negated : Bool) : Reader OpenClass := fun cs =>
  (some (leadingHyphens f cs)).bind fun p => openTail f negated p.1 (skipSpace f.extended p.2)

theorem localBut_openRest (f : Flags) (negated : Bool) :
    LocalBut (fun _ left => left = []) (openRest f negated) :=
  (local_leadingHyphens f).bind fun hyphens => (localBut_openTail f negated hyphens).skip f.extended

theorem openTail_eq (f : Flags) (negated : Bool) (hyphens : Nat) (cs : List Char) :
    openTail f negated hyphens cs =
      let items := if hyphens = 0 then CharSet.none else .single '-'
      match cs with
      | [] => none
      | ']' :: rest =>
        if hyphens = 0 then
          let rest := skipSpace f.extended rest
          if rest.isEmpty then none else some (⟨negated, none, .single ']'⟩, rest)
        else some (⟨negated, none, items⟩, cs)
      | _ => some (⟨negated, none, items⟩, cs) := by
  cases cs with
  | nil => by_cases hzero : hyphens = 0 <;> simp [openTail, nonempty, hzero]
  | cons c cs =>
      by_cases hc : c = ']'
      · subst hc
        by_cases hzero : hyphens = 0 <;> simp [openTail, nonempty, hzero]
      · have hne : ¬ ']' = c := Ne.symm hc
        by_cases hzero : hyphens = 0 <;> simp [openTail, nonempty, hzero, hc, hne]

theorem openClass?_eq (f : Flags) : openClass? f = fun cs =>
    (fun cs => if ['^'] <+: cs then openRest f true (skipSpace f.extended (cs.drop ['^'].length))
      else openRest f false cs) (skipSpace f.extended cs) := by
  funext cs
  simp only [openClass?, nextChar?, openRest, Option.bind_some]
  cases skipSpace f.extended cs with
  | nil => simp [leadingHyphens, skipSpace_nil, openTail_eq]
  | cons c rest =>
      by_cases hc : c = '^'
      · subst hc
        exact (openTail_eq f true _ _).symm
      · have hne : ¬ ['^'] <+: c :: rest := fun h => hc (List.cons_prefix_cons.mp h).1.symm
        rw [if_neg hne]
        simp only [if_neg hc]
        exact (openTail_eq f false _ _).symm

theorem localBut_openClass? (f : Flags) : LocalBut (fun _ left => left = []) (openClass? f) := by
  rw [openClass?_eq]
  exact .skip (.ifPrefix (by decide) ((localBut_openRest f true).skip f.extended)
    (localBut_openRest f false)) f.extended

/-! ### Items and ranges -/

/-- There are no assertions in classes. -/
@[simp] def Primitive.item? : Primitive → Option Primitive
  | .literal c => some (.literal c)
  | .class s => some (.class s)
  | .assertion _ => none

def setItem? (f : Flags) : Reader Primitive := fun cs =>
  (classItem? f cs).bind fun p => p.1.item?.map (·, p.2)

theorem local_setItem? (f : Flags) : Local (setItem? f) := by
  refine .cons rfl fun c => ?_
  by_cases hc : c = '\\'
  · subst hc
    refine .cons rfl fun d => ?_
    by_cases hd : d = 'b'
    · subst hd
      have hnone : (fun cs => setItem? f ('\\' :: 'b' :: cs)) = fun _ => none := by
        funext cs
        refine Option.bind_eq_none_iff.mpr ?_
        rintro ⟨p, rest⟩ hp
        obtain ⟨l, rfl⟩ := exists_assertion_of_escape? hp
        rfl
      rw [hnone]
      exact .fail
    · exact (local_escape?_cons hd).bind fun p => .ofOption p.item?
  · have hliteral : (fun cs => setItem? f (c :: cs)) = fun cs => some (.literal c, cs) := by
      funext cs
      simp [setItem?, classItem?]
    rw [hliteral]
    exact .pure _

def Primitive.set? : Primitive → Option CharSet
  | .literal c => some (.single c)
  | .class s => some s
  | .assertion _ => none

def Primitive.range? : Primitive → Primitive → Option CharSet
  | .literal a, .literal b => if a.toNat ≤ b.toNat then some (.range a b) else none
  | _, _ => none

/-- The other end of a range that starts with `first`. -/
def rangeEnd? (f : Flags) (first : Primitive) : Reader CharSet := fun cs =>
  (setItem? f cs).bind fun p => (first.range? p.1).map (·, p.2)

theorem local_rangeEnd? (f : Flags) (first : Primitive) : Local (rangeEnd? f first) :=
  (local_setItem? f).bind fun last => .ofOption (first.range? last)

/-- What stands after the first item: a range goes on with a hyphen that is neither last nor
doubled. -/
def rangeTail? (f : Flags) (first : Primitive) : Reader CharSet :=
  behind f.extended '-' (fun d => d != ']' && d != '-')
    (fun cs => rangeEnd? f first (skipSpace f.extended cs)) first.set? none

theorem rangeEnd?_eq (f : Flags) (first : Primitive) (cs : List Char) : rangeEnd? f first cs =
    match first, classItem? f cs with
    | .literal a, some (.literal b, rest) =>
      if a.toNat ≤ b.toNat then some (.range a b, rest) else none
    | _, _ => none := by
  rw [rangeEnd?, setItem?]
  cases classItem? f cs with
  | none => cases first <;> rfl
  | some p =>
      obtain ⟨last, rest⟩ := p
      cases first <;> cases last <;> simp [Primitive.range?]

theorem classRange?_eq (f : Flags) (cs : List Char) : classRange? f cs =
    (setItem? f cs).bind fun p => rangeTail? f p.1 (skipSpace f.extended p.2) := by
  rw [classRange?, setItem?]
  cases classItem? f cs with
  | none => rfl
  | some p =>
      obtain ⟨first, rest⟩ := p
      simp only [Option.bind_some]
      cases hrest : skipSpace f.extended rest with
      | nil => cases first <;> simp [hrest, rangeTail?, behind]
      | cons c cs =>
          by_cases hc : c = '-'
          · subst hc
            cases hafter : skipSpace f.extended cs with
            | nil => cases first <;> simp [hrest, hafter, rangeTail?, behind]
            | cons d after =>
                by_cases hd : d = ']' ∨ d = '-'
                · rcases hd with rfl | rfl <;> cases first <;>
                    simp [hrest, hafter, rangeTail?, behind, Primitive.set?]
                · have hd := not_or.mp hd
                  cases first with
                  | literal a =>
                      simp [hrest, hafter, rangeTail?, behind, hd.1, hd.2]
                      exact (rangeEnd?_eq f (.literal a) (d :: after)).symm
                  | «class» set =>
                      simp [hrest, hafter, rangeTail?, behind, hd.1, hd.2, rangeEnd?_eq]
                  | assertion l => simp [hafter, rangeTail?, behind, hd.1, hd.2, rangeEnd?_eq]
          · cases first <;> simp [hrest, rangeTail?, behind, hc, Primitive.set?]

theorem localBut_rangeTail? (f : Flags) (first : Primitive) :
    LocalBut (fun _ left => left = [] ∨ Lone f.extended '-' left) (rangeTail? f first) := by
  -- The other end of the range needs something to be read from.
  have hempty (cs : List Char) (h : skipSpace f.extended cs = []) :
      rangeEnd? f first (skipSpace f.extended cs) = none := by
    rw [h]
    rfl
  refine (localBut_behind (by decide) ((local_rangeEnd? f first).skip f.extended) hempty).mono ?_
  rintro _ left (hlone | ⟨hleft, -⟩)
  · exact .inr hlone
  · exact .inl hleft

theorem localBut_classRange? (f : Flags) :
    LocalBut (fun _ left => left = [] ∨ Lone f.extended '-' left) (classRange? f) := by
  have heq : classRange? f = fun cs =>
      (setItem? f cs).bind fun p => rangeTail? f p.1 (skipSpace f.extended p.2) :=
    funext (classRange?_eq f)
  rw [heq]
  exact (local_setItem? f).bind fun first => (localBut_rangeTail? f first).skip f.extended

/-! ### The loop -/

/-- Where the loop over a class stands: the enclosing classes and the class itself. -/
abbrev ClassState := List OpenClass × OpenClass

/-- What follows an opening bracket in a class: a named class, or the start of a class. -/
def innerClass? (f : Flags) (s : ClassState) : Reader (Turn ClassState CharSet) := fun cs =>
  match asciiClass? f cs with
  | some (set, rest) => some (.next (s.1, s.2.add set) id, rest)
  | none => (openClass? f cs).map fun p => (.next (s.2 :: s.1, p.1) id, p.2)

/-- What a closing bracket leads to. -/
def closeTurn? (f : Flags) (s : ClassState) : Option (Turn ClassState CharSet) :=
  (s.2.close? f).map fun set => match s.1 with
    | [] => .stop set
    | parent :: outer => .next (outer, parent.add set) id

/-- One item of a class. -/
def classTurn? (f : Flags) (s : ClassState) : Reader (Turn ClassState CharSet) := fun cs =>
  if ['['] <+: cs then innerClass? f s (cs.drop ['['].length)
  else if [']'] <+: cs then (closeTurn? f s).map (·, cs.drop [']'].length)
  else if ['&', '&'] <+: cs then
    some (.next (s.1, s.2.operator f .inter) id, cs.drop ['&', '&'].length)
  else if ['-', '-'] <+: cs then
    some (.next (s.1, s.2.operator f .diff) id, cs.drop ['-', '-'].length)
  else if ['~', '~'] <+: cs then
    some (.next (s.1, s.2.operator f .symmDiff) id, cs.drop ['~', '~'].length)
  else (classRange? f cs).map fun p => (.next (s.1, s.2.add p.1) id, p.2)

/-- One item of a class, after blanks and comments. -/
def classRound (f : Flags) (s : ClassState) : Reader (Turn ClassState CharSet) := fun cs =>
  classTurn? f s (skipSpace f.extended cs)

/-- What an item may leave that no class goes on with. -/
def ClassStuck (f : Flags) (t : Turn ClassState CharSet) (left : List Char) : Prop :=
  (∃ s k, t = .next s k) ∧ (left = [] ∨ Lone f.extended '-' left)

theorem localBut_innerClass? (f : Flags) (s : ClassState) :
    LocalBut (ClassStuck f) (innerClass? f s) := by
  have hopen : LocalBut (ClassStuck f) fun cs =>
      (openClass? f cs).map fun p => (Turn.next (s.2 :: s.1, p.1) id, p.2) :=
    .map (k := fun o => Turn.next (s.2 :: s.1, o) id)
      ((localBut_openClass? f).mono fun h => ⟨⟨_, _, rfl⟩, .inl h⟩)
  constructor
  · intro cs t rest h
    unfold innerClass? at h
    split at h
    · next hclass =>
        cases h
        obtain ⟨taken, rfl, -⟩ := exists_append_of_asciiClass? hclass
        exact List.suffix_append _ _
    · exact hopen.suffix h
  · intro cs z t rest h hrest
    have happend (more : List Char) := asciiClass?_append f cs more
    unfold innerClass? at h ⊢
    rw [happend] at h
    cases hclass : asciiClass? f cs with
    | some p =>
        rw [hclass] at h happend
        cases h
        refine ⟨p.2, rfl, .inl ⟨?_, fun more => ?_⟩⟩
        · simp only [hclass]
        · simp only [happend, Option.map_some]
    | none =>
        rw [hclass] at h happend
        obtain ⟨left, hleft, htakes⟩ := hopen.stops h hrest
        refine ⟨left, hleft, htakes.imp_left fun htakes => ⟨?_, fun more => ?_⟩⟩
        · simp only [hclass]
          exact htakes.alone
        · simp only [happend, Option.map_none]
          exact htakes.before more

theorem localBut_classRound (f : Flags) (s : ClassState) :
    LocalBut (ClassStuck f) (classRound f s) := by
  have hrange : LocalBut (ClassStuck f) fun cs =>
      (classRange? f cs).map fun p => (Turn.next (s.1, s.2.add p.1) id, p.2) :=
    .map (k := fun set => Turn.next (s.1, s.2.add set) id)
      ((localBut_classRange? f).mono fun h => ⟨⟨_, _, rfl⟩, h⟩)
  refine LocalBut.skip (g := classTurn? f s) ?_ f.extended
  exact .ifPrefix (by decide) (localBut_innerClass? f s)
    (.ifPrefix (by decide) (.ofOption (closeTurn? f s))
      (.ifPrefix (by decide) (.pure (Turn.next (s.1, s.2.operator f .inter) id))
        (.ifPrefix (by decide) (.pure (Turn.next (s.1, s.2.operator f .diff) id))
          (.ifPrefix (by decide) (.pure (Turn.next (s.1, s.2.operator f .symmDiff) id)) hrange))))

/-! ### Progress -/

theorem length_lt_of_setItem? {p : Primitive} (h : setItem? f cs = some (p, rest)) :
    rest.length < cs.length := by
  obtain ⟨⟨q, left⟩, hitem, hq⟩ := Option.bind_eq_some_iff.mp h
  obtain ⟨q, -, hq⟩ := Option.map_eq_some_iff.mp hq
  cases hq
  unfold classItem? at hitem
  split at hitem
  · cases hitem
  · exact Nat.lt_succ_of_le ((localBut_escape? f).suffix hitem).length_le
  · cases hitem
    exact Nat.lt_succ_self _

theorem length_lt_of_classRange? {s : CharSet} (h : classRange? f cs = some (s, rest)) :
    rest.length < cs.length := by
  rw [classRange?_eq] at h
  obtain ⟨⟨p, left⟩, hitem, htail⟩ := Option.bind_eq_some_iff.mp h
  have hle := (((localBut_rangeTail? f p).suffix htail).trans (skipSpace_suffix _ left)).length_le
  exact Nat.lt_of_le_of_lt hle (length_lt_of_setItem? hitem)

theorem length_lt_of_drop {ds : List Char} (hpre : ds <+: cs) (hds : 0 < ds.length)
    (h : rest <:+ cs.drop ds.length) : rest.length < cs.length := by
  have hle := h.length_le
  have hle' := hpre.length_le
  rw [List.length_drop] at hle
  omega

theorem length_lt_of_classTurn? {s : ClassState} {t : Turn ClassState CharSet}
    (h : classTurn? f s cs = some (t, rest)) : rest.length < cs.length := by
  unfold classTurn? at h
  split at h
  · next hpre => exact length_lt_of_drop hpre (by decide) ((localBut_innerClass? f s).suffix h)
  · split at h
    · next hpre =>
        obtain ⟨t, -, h⟩ := Option.map_eq_some_iff.mp h
        cases h
        exact length_lt_of_drop hpre (by decide) List.suffix_rfl
    · split at h
      · next hpre =>
          cases h
          exact length_lt_of_drop hpre (by decide) List.suffix_rfl
      · split at h
        · next hpre =>
            cases h
            exact length_lt_of_drop hpre (by decide) List.suffix_rfl
        · split at h
          · next hpre =>
              cases h
              exact length_lt_of_drop hpre (by decide) List.suffix_rfl
          · obtain ⟨p, hrange, h⟩ := Option.map_eq_some_iff.mp h
            cases h
            exact length_lt_of_classRange? hrange

theorem length_lt_of_classRound {s : ClassState} {t : Turn ClassState CharSet}
    (h : classRound f s cs = some (t, rest)) : rest.length < cs.length :=
  Nat.lt_of_lt_of_le (length_lt_of_classTurn? h) (skipSpace_suffix f.extended cs).length_le

theorem skipSpace_hyphen (e : Bool) (cs : List Char) : skipSpace e ('-' :: cs) = '-' :: cs := by
  rw [skipSpace, if_neg, if_neg]
  · simp
  · rw [show Unicode.isBlank '-' = false from rfl, Bool.and_false]
    exact Bool.false_ne_true

theorem classRound_eq_none {t : Turn ClassState CharSet} (h : ClassStuck f t cs)
    (s : ClassState) : classRound f s cs = none := by
  rcases h.2 with rfl | ⟨rest, rfl, hrest⟩
  · simp [classRound, classTurn?, skipSpace_nil, classRange?, classItem?]
  · have hsingle : ¬ ['-'] <+: rest := by
      rintro ⟨rest, rfl⟩
      rw [List.singleton_append, skipSpace_hyphen] at hrest
      cases hrest
    have hrange : classRange? f ('-' :: rest) = none := by
      rw [classRange?_eq, setItem?, classItem?]
      · simp [hrest, rangeTail?, behind]
      · decide
    simp [classRound, classTurn?, skipSpace_hyphen, hsingle, hrange]

/-! ### Classes -/

theorem not_prefix_of {ds : List Char} (h : ∀ rest, cs = ds ++ rest → False) : ¬ ds <+: cs :=
  fun ⟨rest, hrest⟩ => h rest hrest.symm

theorem classBody?_eq_rounds (f : Flags) (fuel : Nat) (outer : List OpenClass) (o : OpenClass)
    (cs : List Char) : classBody? f fuel outer o cs = rounds (classRound f) fuel (outer, o) cs := by
  induction fuel generalizing outer o cs with
  | zero => rfl
  | succ fuel ih =>
      have hnext {s : ClassState} {rest : List Char}
          (h : classRound f (outer, o) cs = some (.next s id, rest)) :
          rounds (classRound f) (fuel + 1) (outer, o) cs = classBody? f fuel s.1 s.2 rest := by
        rw [rounds_of_next h, ih]
        simp
      rw [classBody?]
      split
      · next h =>
          have hround : classRound f (outer, o) cs = none := by
            simp [classRound, classTurn?, h, classRange?, classItem?]
          exact (rounds_of_none hround).symm
      · next rest h =>
          have hround : classRound f (outer, o) cs = innerClass? f (outer, o) rest := by
            simp [classRound, classTurn?, h]
          cases hclass : asciiClass? f rest with
          | some p => exact (hnext (by rw [hround, innerClass?, hclass])).symm
          | none =>
              cases hopen : openClass? f rest with
              | some p => exact (hnext (by rw [hround, innerClass?, hclass, hopen]; rfl)).symm
              | none =>
                  exact (rounds_of_none (by rw [hround, innerClass?, hclass, hopen]; rfl)).symm
      · next rest h =>
          have hround : classRound f (outer, o) cs = (closeTurn? f (outer, o)).map (·, rest) := by
            simp [classRound, classTurn?, h]
          cases hclose : o.close? f with
          | none => exact (rounds_of_none (by rw [hround, closeTurn?, hclose]; rfl)).symm
          | some set =>
              cases outer with
              | nil => exact (rounds_of_stop (by rw [hround, closeTurn?, hclose]; rfl)).symm
              | cons parent outer => exact (hnext (by rw [hround, closeTurn?, hclose]; rfl)).symm
      · next rest h =>
          have hround : classRound f (outer, o) cs =
              some (.next (outer, o.operator f .inter) id, rest) := by
            simp [classRound, classTurn?, h]
          exact (hnext hround).symm
      · next rest h =>
          have hround : classRound f (outer, o) cs =
              some (.next (outer, o.operator f .diff) id, rest) := by
            simp [classRound, classTurn?, h]
          exact (hnext hround).symm
      · next rest h =>
          have hround : classRound f (outer, o) cs =
              some (.next (outer, o.operator f .symmDiff) id, rest) := by
            simp [classRound, classTurn?, h]
          exact (hnext hround).symm
      · next h₁ h₂ h₃ h₄ h₅ h₆ =>
          have hround : classRound f (outer, o) cs =
              (classRange? f (skipSpace f.extended cs)).map fun p =>
                (.next (outer, o.add p.1) id, p.2) := by
            rw [classRound, classTurn?, if_neg (not_prefix_of h₂), if_neg (not_prefix_of h₃),
              if_neg (not_prefix_of h₄), if_neg (not_prefix_of h₅), if_neg (not_prefix_of h₆)]
          cases hrange : classRange? f (skipSpace f.extended cs) with
          | some p => exact (hnext (by rw [hround, hrange]; rfl)).symm
          | none => exact (rounds_of_none (by rw [hround, hrange]; rfl)).symm

theorem local_classBody? (f : Flags) (o : OpenClass) :
    Local fun cs => classBody? f (cs.length + 1) [] o cs := by
  simp only [classBody?_eq_rounds]
  refine local_rounds (localBut_classRound f) length_lt_of_classRound ?_ ([], o)
  intro t left hstuck
  obtain ⟨s, k, rfl⟩ := hstuck.1
  exact ⟨s, k, rfl, fun fuel => rounds_of_none (classRound_eq_none hstuck s)⟩

theorem class?_eq (f : Flags) : class? f = fun cs =>
    (openClass? f cs).bind fun p => classBody? f (p.2.length + 1) [] p.1 p.2 := by
  funext cs
  rw [class?]
  cases openClass? f cs <;> rfl

theorem local_class? (f : Flags) : Local (class? f) := by
  rw [class?_eq]
  refine (localBut_openClass? f).bind_of_none (local_classBody? f) ?_
  rintro o left rfl
  rw [classBody?_eq_rounds]
  exact rounds_of_none (classRound_eq_none (t := .next ([], o) id) ⟨⟨_, _, rfl⟩, .inl rfl⟩ _)

end AlertRouter.Regex.Pattern
