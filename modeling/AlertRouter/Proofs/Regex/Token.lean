import AlertRouter.Proofs.Regex.Class
import AlertRouter.Regex.Pattern.Parser

/-! # Tokens are read locally

A pattern is read token by token (`token?`): a character, with all that belongs to it, after blanks
and comments.  Bounds of repetitions, flags, names of groups and what opens a group are local, so
tokens are, but for the assertion `\b` with a brace that no bounds follow (`localBut_token?`).  No
token can be read there (`token?_eq_none`). -/

namespace AlertRouter.Regex.Pattern

variable {f : Flags} {cs rest : List Char}

/-! ### Repetitions -/

/-- Digits with blanks around them, which are not read as a number yet. -/
def digits : Reader (List Char) := fun cs =>
  (some ((), cs.dropWhile Unicode.isBlank)).bind fun p =>
    (some (p.2.takeWhile Char.isDigit, p.2.dropWhile Char.isDigit)).bind fun q =>
      some (q.1, q.2.dropWhile Unicode.isBlank)

theorem local_dropBlank : Local fun cs => some ((), cs.dropWhile Unicode.isBlank) :=
  LocalBut.map (S := fun _ _ => False) (k := fun _ => ()) (local_span (p := Unicode.isBlank) rfl)

theorem local_digits : Local digits :=
  local_dropBlank.bind fun _ => (local_span (p := Char.isDigit) rfl).bind fun ds =>
    local_dropBlank.map (k := fun _ => ds)

/-- A number of 32 bits. -/
def bound? (ds : List Char) : Option Nat :=
  (Codec.unsigned? 10 ds).bind fun n => if n < UInt32.size then some n else none

theorem decimal?_eq (f : Flags) : decimal? f = fun cs =>
    (digits cs).bind fun p => (bound? p.1).map fun n => (n, skipSpace f.extended p.2) := by
  funext cs
  simp only [decimal?, digits, bound?, Option.bind_some, drop_length_takeWhile]
  cases Codec.unsigned? 10 ((cs.dropWhile Unicode.isBlank).takeWhile Char.isDigit) with
  | none => rfl
  | some n => by_cases hn : n < UInt32.size <;> simp [hn]

theorem local_decimal? (f : Flags) : Local (decimal? f) := by
  rw [decimal?_eq]
  exact local_digits.bind fun ds => local_ofOption_skip (bound? ds) f.extended

/-- The upper bound of a repetition and the closing brace. -/
def most? (f : Flags) (least : Nat) : Reader (Nat × Option Nat) := fun cs =>
  (decimal? f cs).bind fun p =>
    if ['}'] <+: p.2 then
      (if least ≤ p.1 then some (least, some p.1) else none).map (·, p.2.drop ['}'].length)
    else none

theorem local_most? (f : Flags) (least : Nat) : Local (most? f least) :=
  (local_decimal? f).bind fun most => .ifPrefix (by decide)
    (.ofOption (if least ≤ most then some (least, some most) else none)) .fail

/-- What follows the lower bound of a repetition. -/
def boundsTail? (f : Flags) (least : Nat) : Reader (Nat × Option Nat) := fun cs =>
  if ['}'] <+: cs then some ((least, some least), cs.drop ['}'].length)
  else if [','] <+: cs then
    (fun cs => if ['}'] <+: cs then some ((least, none), cs.drop ['}'].length)
      else most? f least cs) (skipSpace f.extended (cs.drop [','].length))
  else none

theorem local_boundsTail? (f : Flags) (least : Nat) : Local (boundsTail? f least) :=
  .ifPrefix (by decide) (.pure (least, some least)) (.ifPrefix (by decide)
    (.skip (.ifPrefix (by decide) (.pure (least, none)) (local_most? f least)) f.extended) .fail)

theorem most?_eq (f : Flags) (least : Nat) (cs : List Char) : most? f least cs =
    match decimal? f cs with
    | some (most, '}' :: rest) => if least ≤ most then some ((least, some most), rest) else none
    | _ => none := by
  rw [most?]
  cases decimal? f cs with
  | none => rfl
  | some p =>
      obtain ⟨most, rest⟩ := p
      cases rest with
      | nil => rfl
      | cons c rest =>
          by_cases hc : c = '}'
          · subst hc
            by_cases hle : least ≤ most <;> simp [hle]
          · have hne : ¬ '}' = c := Ne.symm hc
            simp [hc, hne]

theorem bounds?_eq (f : Flags) : bounds? f = fun cs =>
    (decimal? f cs).bind fun p => boundsTail? f p.1 p.2 := by
  funext cs
  rw [bounds?]
  cases decimal? f cs with
  | none => rfl
  | some p =>
      obtain ⟨least, rest⟩ := p
      cases rest with
      | nil => rfl
      | cons c rest =>
          by_cases hbrace : c = '}'
          · subst hbrace
            simp [boundsTail?]
          · by_cases hcomma : c = ','
            · subst hcomma
              simp only [Option.bind_some, boundsTail?]
              generalize hskip : skipSpace f.extended rest = cs
              simp only [hskip, List.drop_succ_cons, List.length_singleton, List.drop_zero]
              cases cs with
              | nil =>
                  simp
                  exact (most?_eq f least []).symm
              | cons d cs =>
                  by_cases hd : d = '}'
                  · subst hd
                    simp
                  · have hne : ¬ '}' = d := Ne.symm hd
                    simp [hd, hne]
                    exact (most?_eq f least (d :: cs)).symm
            · have hne : ¬ '}' = c := Ne.symm hbrace
              have hne' : ¬ ',' = c := Ne.symm hcomma
              simp [boundsTail?, hbrace, hcomma, hne, hne']

theorem local_bounds? (f : Flags) : Local (bounds? f) := by
  rw [bounds?_eq]
  exact (local_decimal? f).bind fun least => local_boundsTail? f least

theorem local_dropLazy : Local fun cs => some ((), dropLazy cs) := by
  have heq : (fun cs => some ((), dropLazy cs)) = fun cs =>
      if ['?'] <+: cs then some ((), cs.drop ['?'].length) else some ((), cs) := by
    funext cs
    unfold dropLazy
    split
    · simp
    · next h => rw [if_neg (not_prefix_of h)]
  rw [heq]
  exact .ifPrefix (by decide) (.pure ()) (.pure ())

/-! ### Groups -/

/-- A name that a group may have. -/
def checkedName? (name : List Char) : Option (List Char) :=
  match name with
  | [] => none
  | c :: more => if isNameChar true c && more.all (isNameChar false) then some name else none

theorem groupName?_eq : groupName? = fun cs =>
    (cut? '>' cs).bind fun p => (checkedName? p.1).map (·, p.2) := by
  funext cs
  simp only [groupName?]
  cases hcut : cut? '>' cs with
  | none =>
      rw [drop_takeWhile_of_cut? hcut]
      cases cs.takeWhile (· != '>') <;> rfl
  | some p =>
      obtain ⟨name, rest⟩ := p
      obtain ⟨htake, hdrop⟩ := takeWhile_of_cut? hcut
      rw [htake, hdrop, Option.bind_some]
      cases name with
      | nil => rfl
      | cons c more =>
          simp only [checkedName?]
          split <;> rfl

/-- A group with a name. -/
def namedGroup? : Reader Opening := fun cs => (groupName? cs).map fun p => (.named p.1, p.2)

theorem local_namedGroup? : Local namedGroup? := by
  have hname : Local groupName? := by
    rw [groupName?_eq]
    exact (local_cut? '>').bind fun name => .ofOption (checkedName? name)
  exact hname.map (k := Opening.named)

/-- The flags so far, and the letters and minus signs that they come from. -/
abbrev FlagState := Flags × List Char

/-- The flags after one more letter or minus sign. -/
def nextFlags? (s : FlagState) (c : Char) : Option FlagState :=
  if c ∈ s.2 then none
  else if c = '-' then some (s.1, c :: s.2)
  else (setFlag? s.1 c (!s.2.contains '-')).map (·, c :: s.2)

/-- What the flags are for, by the character after them. -/
def flagsEnd? (s : FlagState) (c : Char) : Option Opening :=
  if s.2.head? = some '-' then none
  else if c = ':' then some (.withFlags s.1)
  else if s.2.isEmpty then none else some (.setFlags s.1)

def flagRound (s : FlagState) : Reader (Turn FlagState Opening)
  | [] => none
  | c :: cs =>
    if c = ':' ∨ c = ')' then ((flagsEnd? s c).map Turn.stop).map (·, cs)
    else ((nextFlags? s c).map fun s => Turn.next s id).map (·, cs)

theorem localBut_flagRound (s : FlagState) : Local (flagRound s) :=
  .cons rfl fun c => .ite (c = ':' ∨ c = ')') (.ofOption ((flagsEnd? s c).map Turn.stop))
    (.ofOption ((nextFlags? s c).map fun s => Turn.next s id))

theorem length_lt_of_flagRound {s : FlagState} {t : Turn FlagState Opening}
    (h : flagRound s cs = some (t, rest)) : rest.length < cs.length := by
  cases cs with
  | nil => cases h
  | cons c cs =>
      rw [flagRound] at h
      split at h
      · obtain ⟨t, -, h⟩ := Option.map_eq_some_iff.mp h
        cases h
        exact Nat.lt_succ_self _
      · obtain ⟨t, -, h⟩ := Option.map_eq_some_iff.mp h
        cases h
        exact Nat.lt_succ_self _

/-- Flags, with the character after them. -/
def flagGroup? (s : FlagState) : Reader Opening := fun cs =>
  match flags? s.1 s.2 cs with
  | some (f, _, ':' :: rest) => some (.withFlags f, rest)
  | some (f, true, ')' :: rest) => some (.setFlags f, rest)
  | _ => none

theorem flagGroup?_cons (s : FlagState) (c : Char) (cs : List Char) : flagGroup? s (c :: cs) =
    if c = ':' ∨ c = ')' then (flagsEnd? s c).map (·, cs)
    else (nextFlags? s c).bind fun s => flagGroup? s cs := by
  rw [flagGroup?, flags?]
  by_cases hend : c = ':' ∨ c = ')'
  · rw [if_pos hend, if_pos hend, flagsEnd?]
    by_cases hminus : s.2.head? = some '-'
    · simp [hminus]
    · rcases hend with rfl | rfl
      · simp [hminus]
      · cases s.2.isEmpty <;> simp [hminus]
  · rw [if_neg hend, if_neg hend, nextFlags?]
    by_cases hmem : c ∈ s.2
    · simp [hmem]
    · by_cases hminus : c = '-'
      · subst hminus
        simp [hmem, flagGroup?]
      · rw [if_neg hmem, if_neg hmem, if_neg hminus, if_neg hminus]
        cases setFlag? s.1 c (!s.2.contains '-') with
        | none => rfl
        | some f => rfl

theorem flagGroup?_eq_rounds (s : FlagState) (cs : List Char) {fuel : Nat}
    (hfuel : cs.length < fuel) : flagGroup? s cs = rounds flagRound fuel s cs := by
  induction cs generalizing s fuel with
  | nil => exact (rounds_of_none rfl).symm
  | cons c cs ih =>
      obtain ⟨fuel, rfl⟩ := Nat.exists_eq_add_one_of_ne_zero (Nat.ne_zero_of_lt hfuel)
      have hround : flagRound s (c :: cs) = if c = ':' ∨ c = ')' then
          ((flagsEnd? s c).map Turn.stop).map (·, cs)
        else ((nextFlags? s c).map fun s => Turn.next s id).map (·, cs) := rfl
      rw [flagGroup?_cons]
      by_cases hend : c = ':' ∨ c = ')'
      · rw [if_pos hend] at hround ⊢
        cases hlast : flagsEnd? s c with
        | none => exact (rounds_of_none (by rw [hround, hlast]; rfl)).symm
        | some o => exact (rounds_of_stop (by rw [hround, hlast]; rfl)).symm
      · rw [if_neg hend] at hround ⊢
        cases hnext : nextFlags? s c with
        | none => exact (rounds_of_none (by rw [hround, hnext]; rfl)).symm
        | some s' =>
            rw [rounds_of_next (by rw [hround, hnext]; rfl), Option.bind_some,
              ih s' (Nat.lt_of_succ_lt_succ hfuel)]
            simp

theorem local_flagGroup? (s : FlagState) : Local (flagGroup? s) := by
  have heq : flagGroup? s = fun cs => rounds flagRound (cs.length + 1) s cs :=
    funext fun cs => flagGroup?_eq_rounds s cs (Nat.lt_succ_self _)
  rw [heq]
  exact local_rounds localBut_flagRound length_lt_of_flagRound False.elim s

/-- What follows an opening parenthesis, after blanks and comments. -/
def openingTail? (f : Flags) : Reader Opening := fun cs =>
  if ['?', 'P', '<'] <+: cs then namedGroup? (cs.drop ['?', 'P', '<'].length)
  else if ['?', '<', '='] <+: cs then none
  else if ['?', '<', '!'] <+: cs then none
  else if ['?', '<'] <+: cs then namedGroup? (cs.drop ['?', '<'].length)
  else if ['?'] <+: cs then flagGroup? (f, []) (cs.drop ['?'].length)
  else some (.plain, cs)

theorem local_openingTail? (f : Flags) : Local (openingTail? f) :=
  .ifPrefix (by decide) local_namedGroup? (.ifPrefix (by decide) .fail
    (.ifPrefix (by decide) .fail (.ifPrefix (by decide) local_namedGroup?
      (.ifPrefix (by decide) (local_flagGroup? (f, [])) (.pure Opening.plain)))))

theorem opening?_eq (f : Flags) :
    opening? f = fun cs => openingTail? f (skipSpace f.extended cs) := by
  funext cs
  rw [opening?]
  generalize skipSpace f.extended cs = cs
  unfold openingTail?
  dsimp only
  split
  · simp [namedGroup?]
  · simp
  · simp
  · next rest hequal hmark =>
      have hequal' : ¬ ['='] <+: rest := not_prefix_of hequal
      have hmark' : ¬ ['!'] <+: rest := not_prefix_of hmark
      simp [namedGroup?, hequal', hmark']
  · next rest hname hequal hmark hangle =>
      have hname' : ¬ ['P', '<'] <+: rest := not_prefix_of hname
      have hequal' : ¬ ['<', '='] <+: rest := not_prefix_of hequal
      have hmark' : ¬ ['<', '!'] <+: rest := not_prefix_of hmark
      have hangle' : ¬ ['<'] <+: rest := not_prefix_of hangle
      simp [hname', hequal', hmark', hangle']
      rfl
  · next hname hequal hmark hangle hquery =>
      rw [if_neg (not_prefix_of hname), if_neg (not_prefix_of hequal), if_neg (not_prefix_of hmark),
        if_neg (not_prefix_of hangle), if_neg (not_prefix_of hquery)]

theorem local_opening? (f : Flags) : Local (opening? f) := by
  rw [opening?_eq]
  exact (local_openingTail? f).skip f.extended

/-! ### Tokens -/

/-- The state after a group is opened, or flags are set. -/
def State.opened? (s : State) : Opening → Option State
  | .named name =>
    if s.names.contains name then none
    else some { s.openGroup s.flags with names := name :: s.names }
  | .plain => some (s.openGroup s.flags)
  | .withFlags f => some (s.openGroup f)
  | .setFlags f => some { s with flags := f, frame := s.frame.push .flags }

/-- What an assertion may leave that no token is read from. -/
def BraceLeft (s : State) (left : List Char) : Prop := Lone s.flags.extended '{' left

variable {s s' : State}

theorem advance?_open (s : State) (cs : List Char) :
    advance? s '(' cs = (opening? s.flags cs).bind fun p => (s.opened? p.1).map (·, p.2) := by
  rw [advance?]
  cases opening? s.flags cs with
  | none => rfl
  | some p =>
      obtain ⟨o, rest⟩ := p
      cases o with
      | named name =>
          by_cases hname : name ∈ s.names <;> simp [State.opened?, hname]
      | plain => rfl
      | withFlags f => rfl
      | setFlags f => rfl

theorem local_repeated? (s : State) (least : Nat) (most : Option Nat) :
    Local fun cs => (s.frame.repeatLast? least most).map fun frame =>
      (s.update frame, dropLazy cs) := by
  cases s.frame.repeatLast? least most with
  | none => exact .fail
  | some frame => exact local_dropLazy.bind fun _ => .pure (s.update frame)

theorem localBut_advance? (s : State) (c : Char) :
    LocalBut BraceLeft fun cs => advance? s c cs := by
  have hopen : LocalBut BraceLeft fun cs => advance? s '(' cs := by
    simp only [advance?_open]
    exact .of_local ((local_opening? s.flags).bind fun o => .ofOption (s.opened? o))
  unfold advance?
  dsimp only
  split
  · exact hopen
  · exact .ofOption s.closeGroup?
  · exact .pure _
  · exact .of_local ((local_class? s.flags).map
      (k := fun set => s.update (s.frame.push (.node ⟨.chars set, 1⟩))))
  · exact .of_local (local_repeated? s 0 (some 1))
  · exact .of_local (local_repeated? s 0 none)
  · exact .of_local (local_repeated? s 1 none)
  · exact .of_local ((local_bounds? s.flags).bind fun b =>
      (local_repeated? s b.1 b.2).skip s.flags.extended)
  · cases dot? s.flags with
    | none => exact .fail
    | some r => exact .pure (s.pushRegex r)
  · exact .pure _
  · exact .pure _
  · exact .map (k := fun p => s.pushRegex (primitive s.flags p)) (localBut_escape? s.flags)
  · exact .pure _

/-- A character that counts, with all that belongs to it. -/
def token? (s : State) : Reader State := fun cs =>
  (nextChar? s.flags cs).bind fun p => advance? s p.1 p.2

theorem localBut_token? (s : State) : LocalBut BraceLeft (token? s) :=
  (local_nextChar? s.flags).bind fun c => localBut_advance? s c

theorem length_lt_of_token? (h : token? s cs = some (s', rest)) : rest.length < cs.length := by
  obtain ⟨⟨c, left⟩, hnext, h⟩ := Option.bind_eq_some_iff.mp h
  have hle := ((localBut_advance? s c).suffix h).length_le
  exact Nat.lt_of_le_of_lt hle (length_lt_of_nextChar? hnext)

/-! ### What no token is read from -/

theorem skipSpace_brace (e : Bool) (cs : List Char) : skipSpace e ('{' :: cs) = '{' :: cs := by
  rw [skipSpace, if_neg, if_neg]
  · simp
  · rw [show Unicode.isBlank '{' = false from rfl, Bool.and_false]
    exact Bool.false_ne_true

/-- There are no digits where only blanks and comments are left. -/
theorem takeWhile_isDigit_of_skipSpace {e : Bool} (h : skipSpace e cs = []) :
    (cs.dropWhile Unicode.isBlank).takeWhile Char.isDigit = [] := by
  fun_induction skipSpace e cs with
  | case1 => rfl
  | case2 c cs hblank ih =>
      rw [List.dropWhile_cons_of_pos (Bool.and_eq_true_iff.mp hblank).2]
      exact ih h
  | case3 c cs hblank hcomment ih =>
      obtain rfl := eq_of_beq (Bool.and_eq_true_iff.mp hcomment).2
      rfl
  | case4 => cases h

theorem decimal?_eq_none {e : Bool} (h : skipSpace e cs = []) : decimal? f cs = none := by
  rw [decimal?_eq]
  simp only [digits, Option.bind_some, takeWhile_isDigit_of_skipSpace h]
  rfl

theorem token?_eq_none (h : BraceLeft s cs) : token? s cs = none := by
  obtain ⟨rest, rfl, hrest⟩ := h
  have hbounds : bounds? s.flags rest = none := by
    simp only [bounds?_eq, decimal?_eq_none hrest, Option.bind_none]
  rw [token?, nextChar?, skipSpace_brace]
  show (bounds? s.flags rest).bind _ = none
  rw [hbounds, Option.bind_none]

end AlertRouter.Regex.Pattern
