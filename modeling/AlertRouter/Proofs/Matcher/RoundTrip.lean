import AlertRouter.Proofs.Matcher.Quotes

/-! # Reading what was written

The text of a matcher is read back as the matcher, and so are the texts of several of them with
commas between and with or without braces around, whatever their values are: the escapes keep the
quotes of a value from ending it (`quotedBody_escape`), are undone by the reader
(`unescape_escape`), and leave no line end (`newline_notMem_escape`). -/

namespace AlertRouter.Matcher

open QuoteState (Closes)
open Unicode (isBlank)
open Text (Trimmed)

variable {c : Char} {cs : List Char} {m : Matcher} {ms : List Matcher}

/-! ### Escapes -/

theorem unescape_cons_of_ne (hc : c ≠ '\\') : unescape (c :: cs) = c :: unescape cs := by
  rw [unescape]
  all_goals exact fun _ h => absurd h hc

/-- A character is escaped by another one that the reader turns back into it, or stands for
itself. -/
theorem escapeChar_cases (c : Char) :
    (∃ d, escapeChar c = ['\\', d] ∧ d ≠ '\n' ∧
      ∀ cs, unescape ('\\' :: d :: cs) = c :: unescape cs) ∨
    (escapeChar c = [c] ∧ c ≠ '\\' ∧ c ≠ '"' ∧ c ≠ '\n') := by
  by_cases hslash : c = '\\'
  · subst hslash
    exact .inl ⟨'\\', rfl, by decide, fun _ => rfl⟩
  by_cases hquote : c = '"'
  · subst hquote
    exact .inl ⟨'"', rfl, by decide, fun _ => rfl⟩
  by_cases hline : c = '\n'
  · subst hline
    exact .inl ⟨'n', rfl, by decide, fun _ => rfl⟩
  · exact .inr ⟨by simp only [escapeChar, if_neg hslash, if_neg hquote, if_neg hline],
      hslash, hquote, hline⟩

theorem unescape_escape (cs : List Char) : unescape (escape cs) = cs := by
  induction cs with
  | nil => rfl
  | cons c cs ih =>
      show unescape (escapeChar c ++ escape cs) = c :: cs
      obtain ⟨d, hescape, -, hread⟩ | ⟨hescape, hslash, -, -⟩ := escapeChar_cases c
      · rw [hescape, List.cons_append, List.singleton_append, hread, ih]
      · rw [hescape, List.singleton_append, unescape_cons_of_ne hslash, ih]

theorem quotedBody_escape (cs : List Char) : QuotedBody (escape cs) := by
  induction cs with
  | nil => exact .nil
  | cons c cs ih =>
      show QuotedBody (escapeChar c ++ escape cs)
      obtain ⟨d, hescape, -⟩ | ⟨hescape, hslash, hquote, -⟩ := escapeChar_cases c
      · rw [hescape]
        exact .escaped ih
      · rw [hescape]
        exact .plain hquote hslash ih

theorem newline_notMem_escape (cs : List Char) : '\n' ∉ escape cs := by
  intro h
  obtain ⟨c, -, hc⟩ := List.mem_flatMap.mp h
  obtain ⟨d, hescape, hline, -⟩ | ⟨hescape, -, -, hline⟩ := escapeChar_cases c
  · rw [hescape] at hc
    simp [hline.symm] at hc
  · rw [hescape] at hc
    exact hline (List.mem_singleton.mp hc).symm

/-! ### One matcher -/

theorem text_toList (m : Matcher) : m.text.toList =
    m.name.toList ++ (m.comparison.symbol.toList ++ '"' :: (escape m.value.toList ++ ['"'])) := by
  simp [text]

theorem spelled_text (h : IsName m.name.toList) :
    Spelled m.text.toList m.name.toList m.comparison ('"' :: (escape m.value.toList ++ ['"'])) := by
  have hraw : Trimmed ('"' :: (escape m.value.toList ++ ['"'])) := by
    refine ⟨.of_cons (by decide), ?_⟩
    rw [List.reverse_cons, List.reverse_append]
    exact .of_cons (by decide)
  have hline : '\n' ∉ '"' :: (escape m.value.toList ++ ['"']) := by
    simp [newline_notMem_escape]
  have htilde : m.comparison = .equal →
      ([] ++ '"' :: (escape m.value.toList ++ ['"'])).head? ≠ some '~' := by simp
  have hspelled := Spelled.intro Text.blank_nil Text.blank_nil Text.blank_nil Text.blank_nil h hraw
    hline htilde
  simpa [text_toList] using hspelled

/-- The text of a matcher is well quoted. -/
theorem wellQuoted_text (h : IsName m.name.toList) : WellQuoted m.text.toList m := by
  refine .quoted (spelled_text h) (quotedBody_escape _) ?_
  rw [unescape_escape, String.ofList_toList, String.ofList_toList]
  exact ofComparison_comparison m

theorem parse_text (h : IsName m.name.toList) : parse m.text = .ok m :=
  parse_eq_ok_iff_quotes.mpr (.inl (wellQuoted_text h))

/-- The commas of a value are between its quotes. -/
theorem closes_text (h : IsName m.name.toList) : Closes .outside m.text.toList := by
  rw [(spelled_text h).closes_iff, (quotedBody_escape _).closes_append_iff]
  decide

theorem text_ends (h : IsName m.name.toList) :
    ∃ c mid, isNameStart c = true ∧ m.text.toList = c :: (mid ++ ['"']) := by
  rw [text_toList]
  generalize m.name.toList = name at h
  cases name with
  | nil => exact h.elim
  | cons c name =>
      refine ⟨c, name ++ (m.comparison.symbol.toList ++ '"' :: escape m.value.toList), h.1, ?_⟩
      simp

/-! ### Several matchers -/

/-- The texts of matchers with commas between. -/
def listText (ms : List Matcher) : List Char := [','].intercalate (ms.map fun m => m.text.toList)

theorem toList_intercalate_text (ms : List Matcher) :
    (String.intercalate "," (ms.map text)).toList = listText ms := by
  rw [String.toList_intercalate, List.map_map]
  rfl

/-- A list of texts begins like a name and ends with a quote. -/
theorem listText_ends (h : ∀ m ∈ ms, IsName m.name.toList) (hne : ms ≠ []) :
    ∃ c mid, isNameStart c = true ∧ listText ms = c :: (mid ++ ['"']) := by
  induction ms with
  | nil => exact absurd rfl hne
  | cons m ms ih =>
      obtain ⟨hm, hms⟩ := List.forall_mem_cons.mp h
      obtain ⟨c, mid, hc, htext⟩ := text_ends hm
      cases ms with
      | nil => exact ⟨c, mid, hc, by rw [← htext]; exact List.intercalate_singleton⟩
      | cons m' ms =>
          obtain ⟨d, mid', -, hrest⟩ := ih hms (List.cons_ne_nil _ _)
          refine ⟨c, mid ++ '"' :: ',' :: d :: mid', hc, ?_⟩
          calc listText (m :: m' :: ms) = m.text.toList ++ [','] ++ listText (m' :: ms) :=
                List.intercalate_cons_cons
            _ = c :: (mid ++ '"' :: ',' :: d :: mid' ++ ['"']) := by simp [htext, hrest]

theorem framed_listText (h : ∀ m ∈ ms, IsName m.name.toList) :
    Framed (listText ms) (listText ms) := by
  have hbare (hinner : Trimmed (listText ms)) (hfirst : (listText ms).head? ≠ some '\x7b')
      (hlast : (listText ms).getLast? ≠ some '\x7d') : Framed (listText ms) (listText ms) := by
    have hframed := Framed.bare Text.blank_nil Text.blank_nil hinner hfirst hlast
    rwa [List.append_nil, List.nil_append] at hframed
  by_cases hne : ms = []
  · subst hne
    exact hbare ⟨nofun, nofun⟩ nofun nofun
  · obtain ⟨c, mid, hc, heq⟩ := listText_ends h hne
    rw [heq] at hbare ⊢
    refine hbare ⟨.of_cons (isBlank_of_isNameChar (isNameChar_of_isNameStart hc)), ?_⟩ ?_ ?_
    · rw [List.reverse_cons, List.reverse_append]
      exact .of_cons (by decide)
    · rintro ⟨⟩
      exact absurd hc (by decide)
    · rw [← List.cons_append, List.getLast?_concat]
      decide

/-- Whatever the frame is, the matchers are read back. -/
theorem parseList_of_framed {list : String} (h : ∀ m ∈ ms, IsName m.name.toList)
    (hframed : Framed list.toList (listText ms)) : parseList list = .ok ms := by
  rw [parseList_eq_ok_iff]
  by_cases hne : ms = []
  · subst hne
    exact ⟨[], [[]], hframed, .last rfl, .nil⟩
  · refine ⟨_, _, hframed, .of_intercalate (mt List.map_eq_nil_iff.mp hne) ?_, ?_⟩
    · exact List.forall_mem_map.mpr fun m hm => closes_text (h m hm)
    · have hfilter : (ms.map fun m => m.text.toList).filter (fun part => !part.all isBlank) =
          ms.map fun m => m.text.toList := by
        refine List.filter_eq_self.mpr (List.forall_mem_map.mpr fun m hm => ?_)
        obtain ⟨c, mid, hc, htext⟩ := text_ends (h m hm)
        have hblank := isBlank_of_isNameChar (isNameChar_of_isNameStart hc)
        rw [htext, List.all_cons, hblank]
        rfl
      rw [hfilter, List.forall₂_map_left_iff, List.forall₂_same]
      intro m hm
      rw [String.ofList_toList]
      exact parse_text (h m hm)

/-- **The texts of matchers are read back**, with braces around them or without. -/
theorem parseList_text (h : ∀ m ∈ ms, IsName m.name.toList) :
    parseList (String.intercalate "," (ms.map text)) = .ok ms ∧
      parseList ("\x7b" ++ String.intercalate "," (ms.map text) ++ "\x7d") = .ok ms := by
  constructor
  · refine parseList_of_framed h ?_
    rw [toList_intercalate_text]
    exact framed_listText h
  · refine parseList_of_framed h ?_
    rw [String.toList_append, String.toList_append, toList_intercalate_text]
    have hframed : Framed _ (listText ms) := .braces Text.blank_nil Text.blank_nil
    simpa using hframed

/-- Two matchers whose values are made of what could mislead a reader. -/
def misleading : List Matcher :=
  [⟨"a:b", true, .text " \"\\\n,\x7b\x7d\t"⟩,
    ⟨"_c", false, .pattern ⟨"\",(\\\\|\n)",
      (Regex.anchored? "\",(\\\\|\n)").get (by decide +kernel), (Option.some_get _).symm⟩⟩]

theorem parseList_text_misleading :
    parseList (String.intercalate "," (misleading.map text)) = .ok misleading ∧
      parseList ("\x7b" ++ String.intercalate "," (misleading.map text) ++ "\x7d") =
        .ok misleading :=
  parseList_text (by decide)

end AlertRouter.Matcher
