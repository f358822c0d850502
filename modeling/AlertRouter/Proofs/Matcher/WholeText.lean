import AlertRouter.Alert.Query
import AlertRouter.Proofs.Regex.Anchored

/-! # Patterns of whole texts

The pattern of a matcher, or of the receivers to list, is searched for between the start and the end
of a text (`AnchoredPattern.fits_iff`).  If it is a pattern by itself, it fits the texts that one of
its matches covers (`AnchoredPattern.fits_iff_covers`).

A pattern is taken if it can be anchored, and this does not make it a pattern by itself: a
parenthesis in it may close the group that it is anchored in.  The anchors then hold one part of it
each, and the pattern fits texts of which it covers a part only (`taken_without_being_one`).  These
are all the patterns that are taken without being patterns (`whole_text_patterns`). -/

namespace AlertRouter

namespace Regex

/-- A match between the start and the end of a text covers the text. -/
theorem foundIn_anchor_iff {q : Regex} {s : String} :
    (Pattern.anchor q).FoundIn s ↔ q.Covers s := by
  constructor
  · rintro ⟨before, w, after, hs, u, v, rfl, ⟨rfl, hstart⟩, w, v, rfl, hw, rfl, hstop⟩
    have hbefore : before = [] := by simpa [Look.holds] using hstart
    have hafter : after = [] := by simpa [Look.holds] using hstop
    rw [hbefore, hafter] at hs hw
    rw [Covers, hs]
    simpa using hw
  · intro h
    exact ⟨[], s.toList, [], by simp, [], s.toList, rfl, ⟨rfl, rfl⟩, s.toList, [], by simp, h,
      rfl, rfl⟩

end Regex

namespace AnchoredPattern

theorem fits_iff (p : AnchoredPattern) (s : String) : p.fits s = true ↔ p.regex.FoundIn s :=
  Regex.isMatch_iff (Regex.bounded_of_anchored? p.denotes) s

theorem fits_iff_covers {p : AnchoredPattern} {q : Regex} (hq : Regex.parse? p.source = some q)
    (s : String) : p.fits s = true ↔ q.Covers s := by
  rw [fits_iff, Regex.eq_anchor_of_parse? p.denotes hq, Regex.foundIn_anchor_iff]

theorem isSome_ofSource?_iff {source : String} :
    (ofSource? source).isSome = true ↔ (Regex.anchored? source).isSome = true := by
  rw [ofSource?]
  split
  · next h => simp [h]
  · next h => simp [h]

end AnchoredPattern

/-- What is made of a pattern that is taken. -/
structure FitsWhole (pattern : String) (fits : String → Prop) : Prop where
  /-- If it is a pattern, it fits what one of its matches covers. -/
  covers : ∀ q, Regex.parse? pattern = some q → ∀ s, fits s ↔ q.Covers s
  /-- In any case its text between the anchors is searched for. -/
  found : ∃ r, Regex.anchored? pattern = some r ∧ ∀ s, fits s ↔ r.FoundIn s
  /-- It is none if a parenthesis in it ends a pattern that could be taken. -/
  split : Regex.parse? pattern = none ↔
    ∃ front back, pattern = front ++ ")" ++ back ∧ (AnchoredPattern.ofSource? front).isSome

theorem AnchoredPattern.fitsWhole {pattern : String} {p : AnchoredPattern}
    (h : ofSource? pattern = some p) : FitsWhole pattern fun s => p.fits s = true := by
  obtain rfl := source_of_ofSource? h
  refine ⟨fun q hq => fits_iff_covers hq, ⟨p.regex, p.denotes, p.fits_iff⟩, ?_⟩
  simp only [isSome_ofSource?_iff]
  exact Regex.parse?_eq_none_iff p.denotes

/-- **Matchers with patterns, and the pattern of receivers, are about whole texts.**  A negated
matcher holds of the other texts, and a listing for receivers is of those with one that fits. -/
theorem whole_text_patterns (pattern : String) :
    (∀ name m, Matcher.ofComparison .regexp name pattern = .ok m →
      FitsWhole pattern fun v => m.holds v = true) ∧
    (∀ name m, Matcher.ofComparison .notRegexp name pattern = .ok m →
      FitsWhole pattern fun v => m.holds v = false) ∧
    ∀ q q', AlertQuery.forReceiver q pattern = .ok q' → ∃ fits, FitsWhole pattern fits ∧
      ∀ receivers, q'.admitsReceivers receivers = true ↔ ∃ r ∈ receivers, fits r := by
  unfold Matcher.ofComparison AlertQuery.forReceiver
  cases hp : AnchoredPattern.ofSource? pattern with
  | none => exact ⟨fun _ _ => nofun, fun _ _ => nofun, fun _ _ => nofun⟩
  | some p =>
      have hfits := AnchoredPattern.fitsWhole hp
      refine ⟨?_, ?_, ?_⟩
      · rintro name m ⟨⟩
        simpa [Matcher.holds, Matcher.Subject.accepts, Comparison.isNegative] using hfits
      · rintro name m ⟨⟩
        simpa [Matcher.holds, Matcher.Subject.accepts, Comparison.isNegative] using hfits
      · rintro q q' ⟨⟩
        exact ⟨_, hfits, fun receivers => List.any_eq_true⟩

/-- An alternative is taken as a whole: it fits the texts that one of its sides covers. -/
theorem whole_text_patterns_alternative : ∃ m m' q, Regex.parse? "a|bc" = some q ∧
    Matcher.ofComparison .regexp "job" "a|bc" = .ok m ∧ m.holds "bc" = true ∧ q.Covers "bc" ∧
    Matcher.ofComparison .notRegexp "job" "a|bc" = .ok m' ∧ m'.holds "abc" = true ∧
    ¬ q.Covers "abc" ∧ ∃ asked, AlertQuery.all.forReceiver "a|bc" = .ok asked ∧
      asked.admitsReceivers ["team", "a"] = true := by
  obtain ⟨q, hq⟩ := Option.isSome_iff_exists.mp
    (show (Regex.parse? "a|bc").isSome = true by decide +kernel)
  let p : AnchoredPattern := ⟨"a|bc", (Regex.anchored? "a|bc").get (by decide +kernel),
    (Option.some_get _).symm⟩
  have hm : Matcher.ofComparison .regexp "job" p.source = .ok ⟨"job", false, .pattern p⟩ :=
    Matcher.ofComparison_comparison ⟨"job", false, .pattern p⟩
  have hm' : Matcher.ofComparison .notRegexp "job" p.source = .ok ⟨"job", true, .pattern p⟩ :=
    Matcher.ofComparison_comparison ⟨"job", true, .pattern p⟩
  have hasked : AlertQuery.all.forReceiver p.source =
      .ok { AlertQuery.all with receiver := some p } := by
    rw [AlertQuery.forReceiver, p.ofSource?_source]
  obtain ⟨hregexp, hnotRegexp, hreceiver⟩ := whole_text_patterns p.source
  have hbc : Matcher.holds ⟨"job", false, .pattern p⟩ "bc" = true := by decide +kernel
  have habc : Matcher.holds ⟨"job", true, .pattern p⟩ "abc" = true := by decide +kernel
  refine ⟨_, _, q, hq, hm, hbc, ?_, hm', habc, ?_, _, hasked, ?_⟩
  · exact ((hregexp _ _ hm).covers q hq "bc").mp hbc
  · intro hcovers
    exact nomatch habc.symm.trans (((hnotRegexp _ _ hm').covers q hq "abc").mpr hcovers)
  · obtain ⟨fits, hfits, hadmits⟩ := hreceiver _ _ hasked
    have ha : q.Covers "a" := ((hregexp _ _ hm).covers q hq "a").mp (by decide +kernel)
    exact (hadmits _).mpr ⟨"a", by simp, (hfits.covers q hq "a").mpr ha⟩

/-- Two parentheses that close and open the group of the anchors: the pattern is taken, is none by
itself, and fits texts of which only the start or the end is in it. -/
theorem taken_without_being_one : Regex.parse? "a)|(b" = none ∧
    (∃ m, Matcher.ofComparison .regexp "job" "a)|(b" = .ok m ∧ m.holds "ax" = true ∧
      m.holds "xb" = true) ∧
    ∃ q, AlertQuery.all.forReceiver "a)|(b" = .ok q ∧ q.admitsReceivers ["ax"] = true := by
  let p : AnchoredPattern := ⟨"a)|(b", (Regex.anchored? "a)|(b").get (by decide +kernel),
    (Option.some_get _).symm⟩
  have hm : Matcher.ofComparison .regexp "job" p.source = .ok ⟨"job", false, .pattern p⟩ :=
    Matcher.ofComparison_comparison ⟨"job", false, .pattern p⟩
  have hq : AlertQuery.all.forReceiver p.source =
      .ok { AlertQuery.all with receiver := some p } := by
    rw [AlertQuery.forReceiver, p.ofSource?_source]
  refine ⟨by decide +kernel, ⟨_, hm, by decide +kernel, by decide +kernel⟩, _, hq, ?_⟩
  decide +kernel

end AlertRouter
