import AlertRouter.Proofs.Matcher.Grammar

/-! # Quotes in what the readers accept

A value between quotes should end at the first quote that no backslash escapes (`WellQuoted`).  The
reader of one expression takes off the first and the last quote and does not look at what is
between them.  So it also accepts an expression that goes on after that quote and has another one at
its end (`Overrun`), and one in which a backslash escapes the only quote at the end (`Unclosed`); in
both, everything between the outermost quotes is the value.  The reader of a list counts the quotes
to find its commas and notices only the second of these.  `accepts_iff` says that they accept
nothing else. -/

namespace AlertRouter.Matcher

open QuoteState (Closes Plain)
open Unicode (isBlank)
open Text (Blank)

variable {s : QuoteState} {cs ds body name quoted rest : List Char} {op : Comparison}
  {m m' : Matcher}

/-! ### Between two quotes -/

/-- A text in which a backslash stands before every quote to escape it, and none is left over at the
end to escape what follows. -/
inductive QuotedBody : List Char → Prop
  | nil : QuotedBody []
  | plain {c : Char} {cs : List Char} (hquote : c ≠ '"') (hslash : c ≠ '\\')
      (h : QuotedBody cs) : QuotedBody (c :: cs)
  | escaped {c : Char} {cs : List Char} (h : QuotedBody cs) : QuotedBody ('\\' :: c :: cs)

theorem quotedBody_cons_iff {c : Char} (hslash : c ≠ '\\') :
    QuotedBody (c :: cs) ↔ c ≠ '"' ∧ QuotedBody cs := by
  constructor
  · intro h
    cases h with
    | plain hquote _ h => exact ⟨hquote, h⟩
    | escaped h => exact absurd rfl hslash
  · exact fun ⟨hquote, h⟩ => .plain hquote hslash h

theorem quotedBody_escaped_iff {c : Char} : QuotedBody ('\\' :: c :: cs) ↔ QuotedBody cs := by
  constructor
  · intro h
    cases h with
    | plain _ hslash _ => exact absurd rfl hslash
    | escaped h => exact h
  · exact .escaped

theorem quotedBody_append_iff (h : QuotedBody cs) : QuotedBody (cs ++ ds) ↔ QuotedBody ds := by
  induction h with
  | nil => rfl
  | plain hquote hslash h ih =>
      rw [List.cons_append, quotedBody_cons_iff hslash, ih]
      exact and_iff_right hquote
  | escaped h ih =>
      rw [List.cons_append, List.cons_append, quotedBody_escaped_iff, ih]

/-- Read from the front, a text comes to its end, to a quote or to a last backslash. -/
theorem quotedBody_cases : (cs : List Char) →
    QuotedBody cs ∨ (∃ body rest, QuotedBody body ∧ cs = body ++ '"' :: rest) ∨
      ∃ body, QuotedBody body ∧ cs = body ++ ['\\']
  | [] => .inl .nil
  | c :: cs => by
      by_cases hslash : c = '\\'
      · subst hslash
        cases cs with
        | nil => exact .inr (.inr ⟨[], .nil, rfl⟩)
        | cons d cs =>
            obtain h | ⟨body, rest, h, rfl⟩ | ⟨body, h, rfl⟩ := quotedBody_cases cs
            · exact .inl (.escaped h)
            · exact .inr (.inl ⟨'\\' :: d :: body, rest, .escaped h, rfl⟩)
            · exact .inr (.inr ⟨'\\' :: d :: body, .escaped h, rfl⟩)
      by_cases hquote : c = '"'
      · subst hquote
        exact .inr (.inl ⟨[], cs, .nil, rfl⟩)
      · obtain h | ⟨body, rest, h, rfl⟩ | ⟨body, h, rfl⟩ := quotedBody_cases cs
        · exact .inl (.plain hquote hslash h)
        · exact .inr (.inl ⟨c :: body, rest, .plain hquote hslash h, rfl⟩)
        · exact .inr (.inr ⟨c :: body, .plain hquote hslash h, rfl⟩)

theorem not_quotedBody_quote (h : QuotedBody body) : ¬ QuotedBody (body ++ '"' :: rest) := by
  rw [quotedBody_append_iff h, quotedBody_cons_iff (by decide)]
  exact fun h => h.1 rfl

theorem not_quotedBody_slash (h : QuotedBody body) : ¬ QuotedBody (body ++ ['\\']) := by
  rw [quotedBody_append_iff h]
  rintro (_ | ⟨-, hslash, -⟩)
  exact hslash rfl

/-- The splitter is still inside of the quotes after such a text. -/
theorem QuotedBody.closes_append_iff (h : QuotedBody cs) :
    Closes .inside (cs ++ ds) ↔ Closes .inside ds := by
  induction h with
  | nil => rfl
  | plain hquote hslash h ih => simpa [QuoteState.next, hquote, hslash] using ih
  | escaped h ih => simpa [QuoteState.next] using ih

/-! ### Expressions as the splitter sees them -/

theorem ne_of_isBlank {c d : Char} (hc : isBlank c = true) (hd : isBlank d = false) : c ≠ d := by
  rintro rfl
  rw [hc] at hd
  exact Bool.noConfusion hd

theorem plain_of_blank (h : Blank cs) : Plain cs := fun c hc =>
  ⟨ne_of_isBlank (h c hc) (by decide), ne_of_isBlank (h c hc) (by decide)⟩

theorem IsName.plain (h : IsName name) : Plain name := by
  intro c hc
  have hchar := h.isNameChar c hc
  constructor <;>
    · rintro rfl
      exact absurd hchar (by decide)

theorem plain_symbol (op : Comparison) : Plain op.symbol.toList := by
  cases op <;> simp [QuoteState.Plain, Comparison.symbol]

theorem closes_blank_iff (h : Blank cs) : s.Closes cs ↔ s = .outside := by
  induction cs generalizing s with
  | nil => rfl
  | cons c cs ih =>
      obtain ⟨hc, hcs⟩ := List.forall_mem_cons.mp h
      have hquote : c ≠ '"' := ne_of_isBlank hc (by decide)
      have hcomma : c ≠ ',' := ne_of_isBlank hc (by decide)
      have hslash : c ≠ '\\' := ne_of_isBlank hc (by decide)
      rw [QuoteState.closes_cons, ih hcs]
      cases s <;> simp [QuoteState.next, hquote, hcomma, hslash]

theorem closes_append_blank_iff (h : Blank ds) : s.Closes (cs ++ ds) ↔ s.Closes cs := by
  induction cs generalizing s with
  | nil => exact closes_blank_iff h
  | cons c cs ih => rw [List.cons_append, QuoteState.closes_cons, QuoteState.closes_cons, ih]

/-- What is before the first quote of an expression has no comma. -/
theorem Spelled.closes_iff (h : Spelled cs name op ('"' :: quoted)) :
    Closes .outside cs ↔ Closes .inside quoted := by
  generalize hraw : '"' :: quoted = raw at h
  obtain ⟨ha, hb, hc, hd, hname, -, -, -⟩ := h
  subst hraw
  rw [closes_append_blank_iff hd,
    QuoteState.closes_append_iff_of_plain (plain_of_blank ha),
    QuoteState.closes_append_iff_of_plain hname.plain,
    QuoteState.closes_append_iff_of_plain (plain_of_blank hb),
    QuoteState.closes_append_iff_of_plain (plain_symbol op),
    QuoteState.closes_append_iff_of_plain (plain_of_blank hc), QuoteState.closes_cons]
  exact and_iff_right (by decide)

/-! ### The two ways to misplace a quote -/

/-- An expression for the matcher, whose value has no quotes at all or ends at the first quote that
is not escaped. -/
inductive WellQuoted : List Char → Matcher → Prop
  | bare {cs name raw : List Char} {op : Comparison} {m : Matcher} (h : Spelled cs name op raw)
      (hraw : '"' ∉ raw) (hm : ofComparison op (String.ofList name) (String.ofList raw) = .ok m) :
      WellQuoted cs m
  | quoted {cs name body : List Char} {op : Comparison} {m : Matcher}
      (h : Spelled cs name op ('"' :: (body ++ ['"']))) (hbody : QuotedBody body)
      (hm : ofComparison op (String.ofList name) (String.ofList (unescape body)) = .ok m) :
      WellQuoted cs m

/-- An expression that goes on after the first quote that is not escaped, up to another quote; the
value of the matcher is all that is between the outermost quotes. -/
inductive Overrun : List Char → Matcher → Prop
  | intro {cs name body rest : List Char} {op : Comparison} {m : Matcher}
      (h : Spelled cs name op ('"' :: (body ++ '"' :: rest ++ ['"']))) (hbody : QuotedBody body)
      (hm : ofComparison op (String.ofList name)
        (String.ofList (unescape (body ++ '"' :: rest))) = .ok m) :
      Overrun cs m

/-- An expression in which a backslash escapes the only quote that could end the value; the
backslash itself ends it. -/
inductive Unclosed : List Char → Matcher → Prop
  | intro {cs name body : List Char} {op : Comparison} {m : Matcher}
      (h : Spelled cs name op ('"' :: (body ++ ['\\'] ++ ['"']))) (hbody : QuotedBody body)
      (hm : ofComparison op (String.ofList name)
        (String.ofList (unescape (body ++ ['\\']))) = .ok m) :
      Unclosed cs m

theorem parse_eq_ok_iff_quotes {expr : String} : parse expr = .ok m ↔
    WellQuoted expr.toList m ∨ Overrun expr.toList m ∨ Unclosed expr.toList m := by
  rw [parse_eq_ok_iff]
  constructor
  · rintro ⟨name, op, raw, value, h, ⟨hraw⟩ | ⟨body⟩, hm⟩
    · exact .inl (.bare h hraw hm)
    · obtain hbody | ⟨body, rest, hbody, rfl⟩ | ⟨body, hbody, rfl⟩ := quotedBody_cases body
      · exact .inl (.quoted h hbody hm)
      · exact .inr (.inl ⟨h, hbody, hm⟩)
      · exact .inr (.inr ⟨h, hbody, hm⟩)
  · rintro ((⟨h, hraw, hm⟩ | ⟨h, -, hm⟩) | ⟨h, -, hm⟩ | ⟨h, -, hm⟩)
    · exact ⟨_, _, _, _, h, .bare hraw, hm⟩
    · exact ⟨_, _, _, _, h, .quoted _, hm⟩
    · exact ⟨_, _, _, _, h, .quoted _, hm⟩
    · exact ⟨_, _, _, _, h, .quoted _, hm⟩

/-- Whatever is between the outermost quotes, there is one way to read it. -/
theorem WellQuoted.quotedBody (hw : WellQuoted cs m)
    (h : Spelled cs name op ('"' :: (body ++ ['"']))) : QuotedBody body := by
  obtain ⟨h', hraw, -⟩ | ⟨h', hbody, -⟩ := hw
  · obtain ⟨-, -, rfl⟩ := h.unique h'
    exact absurd List.mem_cons_self hraw
  · obtain ⟨-, -, heq⟩ := h.unique h'
    obtain rfl := List.append_cancel_right (List.cons.inj heq).2
    exact hbody

theorem WellQuoted.not_overrun (hw : WellQuoted cs m) : ¬ Overrun cs m' := by
  rintro ⟨h, hbody, -⟩
  exact not_quotedBody_quote hbody (hw.quotedBody h)

theorem WellQuoted.not_unclosed (hw : WellQuoted cs m) : ¬ Unclosed cs m' := by
  rintro ⟨h, hbody, -⟩
  exact not_quotedBody_slash hbody (hw.quotedBody h)

/-- The splitter finds the quote that is left open. -/
theorem Unclosed.not_closes (h : Unclosed cs m) : ¬ Closes .outside cs := by
  obtain ⟨h, hbody, -⟩ := h
  rw [h.closes_iff, List.append_assoc, hbody.closes_append_iff]
  decide

theorem parseList_eq_ok_iff_quotes {text : String} {ms : List Matcher} : parseList text = .ok ms ↔
    ∃ inner parts, Framed text.toList inner ∧ Parts .outside inner parts ∧
      List.Forall₂ (fun part m => WellQuoted part m ∨ Overrun part m)
        (parts.filter fun part => !part.all isBlank) ms := by
  rw [parseList_eq_ok_iff]
  refine exists₂_congr fun inner parts => and_congr_right fun _ => and_congr_right fun hparts => ?_
  have hpart {part : List Char} {m : Matcher} (h : Closes .outside part) :
      parse (String.ofList part) = .ok m ↔ WellQuoted part m ∨ Overrun part m := by
    rw [parse_eq_ok_iff_quotes, String.toList_ofList]
    exact or_congr_right (or_iff_left fun hm => hm.not_closes h)
  simp only [List.forall₂_iff_zip]
  refine and_congr_right fun _ => ⟨fun h part m hmem => ?_, fun h part m hmem => ?_⟩
  all_goals
    have hclosed := hparts.closed rfl part (List.mem_filter.mp (List.of_mem_zip hmem).1).1
  · exact (hpart hclosed).mp (h hmem)
  · exact (hpart hclosed).mpr (h hmem)

/-- **What the readers accept**: well-quoted expressions and, as different from them, those in which
a quote is misplaced in one of two ways, of which a list takes only the first. -/
theorem accepts_iff (expr text : String) :
    (∀ m, parse expr = .ok m ↔
      WellQuoted expr.toList m ∨ Overrun expr.toList m ∨ Unclosed expr.toList m) ∧
    (∀ ms, parseList text = .ok ms ↔ ∃ inner parts,
      Framed text.toList inner ∧ Parts .outside inner parts ∧
      List.Forall₂ (fun part m => WellQuoted part m ∨ Overrun part m)
        (parts.filter fun part => !part.all isBlank) ms) ∧
    ∀ cs m m', ¬(WellQuoted cs m ∧ (Overrun cs m' ∨ Unclosed cs m')) := by
  refine ⟨fun m => parse_eq_ok_iff_quotes, fun ms => parseList_eq_ok_iff_quotes, ?_⟩
  rintro cs m m' ⟨hw, h | h⟩
  · exact hw.not_overrun h
  · exact hw.not_unclosed h

/-- Two expressions without a comma between them are read as one. -/
theorem accepts_two_as_one :
    parse "a=\"1\" b=\"2\"" = .ok (equal "a" "1\" b=\"2") ∧
      parseList "\x7ba=\"1\" b=\"2\"\x7d" = .ok [equal "a" "1\" b=\"2"] ∧
      ¬ ∃ m, WellQuoted "a=\"1\" b=\"2\"".toList m := by
  refine ⟨by decide +kernel, by decide +kernel, ?_⟩
  rintro ⟨m, hw⟩
  have hspelled : Spelled "a=\"1\" b=\"2\"".toList ['a'] .equal
      ('"' :: (['1'] ++ '"' :: " b=\"2".toList ++ ['"'])) :=
    split?_eq_some_iff.mp (by decide +kernel)
  have hbody : QuotedBody ['1'] := .plain (by decide) (by decide) .nil
  exact hw.not_overrun ⟨hspelled, hbody, rfl⟩

end AlertRouter.Matcher
