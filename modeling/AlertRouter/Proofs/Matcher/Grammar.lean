import AlertRouter.Proofs.Cut
import AlertRouter.Proofs.Matcher.Split
import AlertRouter.Proofs.Text.Trim
import Mathlib.Data.List.Forall2

/-! # The grammar of matcher expressions

What the readers of `Matcher.Expression` accept, said without their trimming and scanning:

* `Spelled cs name op raw`: the text `cs` is `name`, `op` and the written value `raw`, with blanks
  around them (`split?_eq_some_iff`);
* `Denotes raw value`: the written value is bare, or has a quote at each end
  (`readValue_eq_ok_iff`);
* `Framed cs inner`: the list `inner` stands between braces, or without any
  (`withoutBraces?_trim_eq_some_iff`).

`parse_eq_ok_iff` and `parseList_eq_ok_iff` put them together. -/

namespace AlertRouter.Matcher

open Unicode (isBlank)
open Text (Blank Flush Trimmed trim trimStart)

variable {b t cs raw name rest inner value : List Char} {op : Comparison} {m : Matcher}

/-! ### Names -/

/-- A letter, `_` or `:`, and after it any of these and digits. -/
def IsName : List Char → Prop
  | [] => False
  | c :: cs => isNameStart c = true ∧ ∀ d ∈ cs, isNameChar d = true

instance : DecidablePred IsName
  | [] => isFalse id
  | c :: cs => decidable_of_iff ((isNameStart c && cs.all isNameChar) = true) (by simp [IsName])

theorem isNameChar_of_isNameStart {c : Char} (h : isNameStart c = true) : isNameChar c = true := by
  have halphanum : c.isAlphanum = (c.isAlpha || c.isDigit) := rfl
  simp only [isNameStart, isNameChar, halphanum, Bool.or_eq_true] at h ⊢
  tauto

theorem isBlank_of_isNameChar {c : Char} (h : isNameChar c = true) : isBlank c = false := by
  have hrange : c.isAlphanum = (decide (65 ≤ c.val ∧ c.val ≤ 90) ||
      decide (97 ≤ c.val) && decide (c.val ≤ 122) ||
      decide (48 ≤ c.val) && decide (c.val ≤ 57)) := rfl
  rw [← Bool.not_eq_true]
  intro hb
  simp only [isNameChar, hrange, isBlank, Bool.or_eq_true, Bool.and_eq_true, decide_eq_true_eq,
    beq_iff_eq, UInt32.le_iff_toNat_le, Char.ext_iff, ← UInt32.toNat_inj, Char.toNat,
    Char.reduceVal, UInt32.reduceToNat] at h hb
  omega

theorem IsName.isNameChar (h : IsName name) : ∀ c ∈ name, isNameChar c = true := by
  cases name with
  | nil => exact h.elim
  | cons c cs => exact List.forall_mem_cons.mpr ⟨isNameChar_of_isNameStart h.1, h.2⟩

theorem IsName.flush (h : IsName name) : Flush name := by
  cases name with
  | nil => exact h.elim
  | cons c cs => exact .of_cons (isBlank_of_isNameChar (isNameChar_of_isNameStart h.1))

theorem IsName.ne_nil (h : IsName name) : name ≠ [] := by
  rintro rfl
  exact h

/-! ### One expression -/

theorem readComparison?_eq_some_iff : readComparison? cs = some (op, rest) ↔
    cs = op.symbol.toList ++ rest ∧ (op = .equal → rest.head? ≠ some '~') := by
  constructor
  · intro h
    unfold readComparison? at h
    split at h <;> simp only [Option.some.injEq, Prod.mk.injEq, reduceCtorEq] at h
    all_goals obtain ⟨rfl, rfl⟩ := h
    case h_4 cs htilde =>
      refine ⟨rfl, fun _ h => ?_⟩
      obtain ⟨ds, rfl⟩ := List.head?_eq_some_iff.mp h
      exact htilde ds rfl
    all_goals exact ⟨rfl, nofun⟩
  · rintro ⟨rfl, h⟩
    cases op with
    | equal =>
        refine readComparison?.eq_4 rest fun ds hds => h rfl ?_
        rw [hds, List.head?_cons]
    | notEqual => rfl
    | regexp => rfl
    | notRegexp => rfl

/-- An expression of a name, a comparison and a written value, with blanks before, between and after
them.  The value has no line end, and a `~` right after `=` belongs to the comparison. -/
inductive Spelled : List Char → List Char → Comparison → List Char → Prop
  | intro {a b c d name raw : List Char} {op : Comparison}
      (ha : Blank a) (hb : Blank b) (hc : Blank c) (hd : Blank d)
      (hname : IsName name) (hraw : Trimmed raw) (hline : '\n' ∉ raw)
      (htilde : op = .equal → (c ++ raw).head? ≠ some '~') :
      Spelled (a ++ (name ++ (b ++ (op.symbol.toList ++ (c ++ raw)))) ++ d) name op raw

section Spelled

/-- Neither a blank nor a comparison goes on with a name. -/
theorem isNameChar_head_eq_false (op : Comparison) (t : List Char) (hb : Blank b) :
    ∀ c ∈ (b ++ (op.symbol.toList ++ t)).head?, isNameChar c = false := by
  cases b with
  | nil =>
      cases op <;>
        · rintro _ ⟨⟩
          decide
  | cons d b =>
      rintro _ ⟨⟩
      rw [← Bool.not_eq_true]
      intro h
      have hd : isBlank d = true := hb d List.mem_cons_self
      rw [isBlank_of_isNameChar h] at hd
      exact absurd hd Bool.false_ne_true

/-- A text that begins with a name starts with it. -/
theorem isName_takeWhile {c : Char} (h : isNameStart c = true) :
    IsName ((c :: cs).takeWhile isNameChar) := by
  rw [List.takeWhile_cons_of_pos (isNameChar_of_isNameStart h)]
  exact ⟨h, fun d => List.mem_takeWhile_imp⟩

theorem flush_symbol_append (op : Comparison) : Flush (op.symbol.toList ++ t) := by
  cases op <;> exact .of_cons (by decide)

theorem trimmed_comparison (hname : IsName name) :
    Trimmed (name ++ (b ++ op.symbol.toList)) where
  front := hname.flush.append hname.ne_nil
  back := by
    rw [← List.append_assoc, List.reverse_append]
    cases op <;> exact .of_cons (by decide)

theorem trimmed_value (hname : IsName name) (hraw : Trimmed raw) (hne : raw ≠ []) :
    Trimmed (name ++ (t ++ raw)) where
  front := hname.flush.append hname.ne_nil
  back := by
    rw [← List.append_assoc, List.reverse_append]
    exact hraw.back.append (mt List.reverse_eq_nil_iff.mp hne)

/-- What `split?` finds in a trimmed text. -/
theorem split?_eq_some_iff_trim : split? cs = some (name, op, raw) ↔
    IsName name ∧ '\n' ∉ raw ∧ ∃ b t, Blank b ∧ trimStart t = raw ∧
      (op = .equal → t.head? ≠ some '~') ∧ trim cs = name ++ (b ++ (op.symbol.toList ++ t)) := by
  unfold split?
  constructor
  · intro h
    generalize trim cs = ds at h ⊢
    cases ds with
    | nil => cases h
    | cons c ds =>
        simp only [Option.ite_none_right_eq_some, Option.bind_eq_some_iff] at h
        obtain ⟨hstart, ⟨op', t⟩, hread, h⟩ := h
        obtain ⟨hline, h⟩ := Option.ite_none_left_eq_some.mp h
        simp only [Option.some.injEq, Prod.mk.injEq] at h
        obtain ⟨rfl, rfl, rfl⟩ := h
        obtain ⟨hrest, htilde⟩ := readComparison?_eq_some_iff.mp hread
        obtain ⟨b, hb, hdrop⟩ := Text.exists_append_trimStart ((c :: ds).dropWhile isNameChar)
        refine ⟨isName_takeWhile hstart, hline, b, t, hb, rfl, htilde, ?_⟩
        calc c :: ds = (c :: ds).takeWhile isNameChar ++ (c :: ds).dropWhile isNameChar :=
              List.takeWhile_append_dropWhile.symm
          _ = (c :: ds).takeWhile isNameChar ++ (b ++ (op'.symbol.toList ++ t)) := by
              rw [hdrop, hrest]
  · rintro ⟨hname, hline, b, t, hb, rfl, htilde, hcs⟩
    have hhead := isNameChar_head_eq_false op t hb
    have hread : readComparison? (op.symbol.toList ++ t) = some (op, t) :=
      readComparison?_eq_some_iff.mpr ⟨rfl, htilde⟩
    simp only [hcs, List.takeWhile_append_of_head? hname.isNameChar hhead,
      List.dropWhile_append_of_head? hname.isNameChar hhead,
      Text.trimStart_append hb (flush_symbol_append op), hread, Option.bind_some, if_neg hline]
    cases name with
    | nil => exact hname.elim
    | cons c name => exact if_pos hname.1

theorem split?_eq_some_iff : split? cs = some (name, op, raw) ↔ Spelled cs name op raw := by
  rw [split?_eq_some_iff_trim]
  constructor
  · rintro ⟨hname, hline, b, t, hb, hraw, htilde, hcs⟩
    obtain ⟨htrimmed, a, d, ha, hd, rfl⟩ := Text.trim_eq_iff.mp hcs
    obtain ⟨c, hc, ht⟩ := Text.exists_append_trimStart t
    rw [hraw] at ht
    subst ht
    refine .intro ha hb hc hd hname ⟨hraw ▸ Text.flush_trimStart _, ?_⟩ hline htilde
    have hback := htrimmed.back
    simp only [List.reverse_append, List.append_assoc] at hback
    exact hback.of_append
  · rintro (@⟨a, b, c, d, _, _, _, ha, hb, hc, hd, hname, hraw, hline, htilde⟩)
    by_cases hne : raw = []
    · -- The blanks before an empty value are trimmed with the ones after it.
      subst hne
      have htrimmed : Trimmed (name ++ (b ++ (op.symbol.toList ++ []))) := by
        rw [List.append_nil]
        exact trimmed_comparison hname
      refine ⟨hname, hline, b, [], hb, rfl, fun _ => nofun, Text.trim_eq_iff.mpr ⟨htrimmed, ?_⟩⟩
      exact ⟨a, c ++ d, ha, hc.append hd, by simp⟩
    · have htrimmed : Trimmed (name ++ (b ++ (op.symbol.toList ++ (c ++ raw)))) := by
        have h := trimmed_value (t := b ++ (op.symbol.toList ++ c)) hname hraw hne
        simpa only [List.append_assoc] using h
      exact ⟨hname, hline, b, c ++ raw, hb, Text.trimStart_append hc hraw.front, htilde,
        Text.trim_eq_iff.mpr ⟨htrimmed, a, d, ha, hd, rfl⟩⟩

/-- There is one way to take an expression apart. -/
theorem Spelled.unique {name' raw' : List Char} {op' : Comparison} (h : Spelled cs name op raw)
    (h' : Spelled cs name' op' raw') : name = name' ∧ op = op' ∧ raw = raw' := by
  have heq := (split?_eq_some_iff.mpr h).symm.trans (split?_eq_some_iff.mpr h')
  simpa using heq

end Spelled

/-! ### The value -/

/-- The value that a written one stands for. -/
inductive Denotes : List Char → List Char → Prop
  | bare {raw : List Char} (h : '"' ∉ raw) : Denotes raw raw
  | quoted (body : List Char) : Denotes ('"' :: (body ++ ['"'])) (unescape body)

theorem readValue_eq_ok_iff (expr : String) :
    readValue expr raw = .ok value ↔ Denotes raw value := by
  constructor
  · intro h
    unfold readValue at h
    split at h
    case h_1 quoted =>
      split at h
      case isTrue hlast =>
        obtain rfl := Except.ok.inj h
        obtain ⟨body, rfl⟩ := List.getLast?_eq_some_iff.mp hlast
        rw [List.dropLast_concat]
        exact .quoted body
      case isFalse => cases h
    case h_2 =>
      obtain ⟨hquote, h⟩ := Except.ite_error_eq_ok_iff.mp h
      obtain rfl := Except.ok.inj h
      exact .bare hquote
  · rintro (⟨h⟩ | ⟨body⟩)
    · unfold readValue
      split
      · exact absurd List.mem_cons_self h
      · exact if_neg h
    · simp [readValue]

theorem parse_eq_ok_iff {expr : String} : parse expr = .ok m ↔
    ∃ name op raw value, Spelled expr.toList name op raw ∧ Denotes raw value ∧
      ofComparison op (String.ofList name) (String.ofList value) = .ok m := by
  simp only [← split?_eq_some_iff, ← readValue_eq_ok_iff expr]
  unfold parse
  split
  · simp [*]
  · simp [*]

/-! ### A list of expressions -/

/-- A list with braces around it or without any, and blanks around that. -/
inductive Framed : List Char → List Char → Prop
  | braces {a b inner : List Char} (ha : Blank a) (hb : Blank b) :
      Framed (a ++ '\x7b' :: (inner ++ ['\x7d']) ++ b) inner
  | bare {a b inner : List Char} (ha : Blank a) (hb : Blank b) (hinner : Trimmed inner)
      (hfirst : inner.head? ≠ some '\x7b') (hlast : inner.getLast? ≠ some '\x7d') :
      Framed (a ++ inner ++ b) inner

theorem withoutBraces?_eq_some_iff : withoutBraces? cs = some inner ↔
    cs = '\x7b' :: (inner ++ ['\x7d']) ∨
      cs = inner ∧ cs.head? ≠ some '\x7b' ∧ cs.getLast? ≠ some '\x7d' := by
  unfold withoutBraces?
  constructor
  · intro h
    split at h
    case h_1 hfirst hlast =>
      obtain ⟨rest, rfl⟩ := List.head?_eq_some_iff.mp (beq_iff_eq.mp hfirst)
      obtain ⟨front, hfront⟩ := List.getLast?_eq_some_iff.mp (beq_iff_eq.mp hlast)
      cases front with
      | nil => simp at hfront
      | cons c body =>
          obtain ⟨rfl, rfl⟩ := List.cons.inj hfront
          obtain rfl : body = inner := by simpa using h
          exact .inl rfl
    case h_2 hfirst hlast =>
      obtain rfl := Option.some.inj h
      exact .inr ⟨rfl, by simpa using hfirst, by simpa using hlast⟩
    case h_3 => cases h
  · rintro (rfl | ⟨rfl, hfirst, hlast⟩)
    · have hlast : ('\x7b' :: (inner ++ ['\x7d'])).getLast? = some '\x7d' := by
        rw [← List.cons_append, List.getLast?_concat]
      simp [hlast]
    · rw [beq_false_of_ne hfirst, beq_false_of_ne hlast]

theorem withoutBraces?_trim_eq_some_iff :
    withoutBraces? (trim cs) = some inner ↔ Framed cs inner := by
  rw [withoutBraces?_eq_some_iff]
  constructor
  · rintro (h | ⟨h, hfirst, hlast⟩)
    · obtain ⟨-, a, b, ha, hb, rfl⟩ := Text.trim_eq_iff.mp h
      exact .braces ha hb
    · obtain ⟨hinner, a, b, ha, hb, rfl⟩ := Text.trim_eq_iff.mp h
      exact .bare ha hb hinner (h ▸ hfirst) (h ▸ hlast)
  · rintro (⟨ha, hb⟩ | ⟨ha, hb, hinner, hfirst, hlast⟩)
    · refine .inl (Text.trim_append ha ⟨.of_cons (by decide), ?_⟩ hb)
      rw [List.reverse_cons, List.reverse_append]
      exact .of_cons (by decide)
    · have h := Text.trim_append ha hinner hb
      exact .inr ⟨h, h.symm ▸ hfirst, h.symm ▸ hlast⟩

theorem parseList_eq_ok_iff {text : String} {ms : List Matcher} : parseList text = .ok ms ↔
    ∃ inner parts, Framed text.toList inner ∧ Parts .outside inner parts ∧
      List.Forall₂ (fun part m => parse (String.ofList part) = .ok m)
        (parts.filter fun part => !part.all isBlank) ms := by
  simp only [← withoutBraces?_trim_eq_some_iff, ← split_eq_ok_iff]
  have hmap {parts : List (List Char)} :
      (parts.mapM fun part => parse (String.ofList part)) = .ok ms ↔
        List.Forall₂ (fun part m => parse (String.ofList part) = .ok m) parts ms := by
    rw [Except.mapM_eq_ok_iff, ← List.forall₂_eq_eq_eq, List.forall₂_map_left_iff,
      List.forall₂_map_right_iff]
  unfold parseList
  split
  · simp [*]
  · simp [*]

end AlertRouter.Matcher
