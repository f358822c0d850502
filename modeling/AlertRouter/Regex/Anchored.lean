import AlertRouter.Regex.Pattern.Parser

/-! # Anchored patterns

A pattern that has to fit a whole text, kept together with its expression. -/

namespace AlertRouter

/-- A pattern whose text denotes `regex` between the start and the end of a text. -/
structure AnchoredPattern where
  source : String
  regex : Regex
  denotes : Regex.anchored? source = some regex

namespace AnchoredPattern

theorem ext {p q : AnchoredPattern} (h : p.source = q.source) : p = q := by
  obtain ⟨s, r, hr⟩ := p
  obtain ⟨s', r', hr'⟩ := q
  obtain rfl : s = s' := h
  obtain rfl : r = r' := Option.some.inj (hr.symm.trans hr')
  rfl

instance : DecidableEq AnchoredPattern := fun p q =>
  if h : p.source = q.source then isTrue (ext h) else isFalse fun e => h (e ▸ rfl)

instance : Repr AnchoredPattern := ⟨fun p n => reprPrec p.source n⟩

/-- The pattern of a text; `none` if the text denotes no expression. -/
def ofSource? (source : String) : Option AnchoredPattern :=
  match h : Regex.anchored? source with
  | some regex => some ⟨source, regex, h⟩
  | none => none

theorem ofSource?_source (p : AnchoredPattern) : ofSource? p.source = some p := by
  rw [ofSource?]
  split
  · exact congrArg some (ext rfl)
  · next h => rw [p.denotes] at h; exact nomatch h

theorem source_of_ofSource? {s : String} {p : AnchoredPattern} (h : ofSource? s = some p) :
    p.source = s := by
  rw [ofSource?] at h
  split at h
  · cases h; rfl
  · exact nomatch h

/-- Does the pattern fit the text? -/
def fits (p : AnchoredPattern) (s : String) : Bool := p.regex.isMatch s

end AnchoredPattern

end AlertRouter
