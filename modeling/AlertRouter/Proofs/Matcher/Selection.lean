import AlertRouter.Proofs.Alert.Stored
import AlertRouter.Proofs.Regex.Matches
import AlertRouter.Regex.Anchored

/-! # Filters and routes agree on stored alerts

A filter goes by the presence of a label alone where its matcher has an empty text
(`Matcher.selectsOne`), a route by the value of the label, an absent label having the empty one
(`Matcher.holdsOf`).  Where a label may be present with an empty value the two differ: a filter may
select more (`selects_of_holdsOf`).

A label with a value is told from an absent one by the value as well, since an empty pattern fits
the empty text alone (`AnchoredPattern.fits_iff_of_source_eq`).  The labels of stored alerts all
have values, so there the two agree (`selects_iff_holdsOf`). -/

namespace AlertRouter

/-! ### The empty pattern -/

namespace Regex

theorem anchored?_empty :
    anchored? "" = some (.seq (.look .start) (.seq .empty (.look .stop))) := by
  decide +kernel

/-- The start of the text with the end of the text after it. -/
theorem foundIn_start_stop_iff {s : String} :
    (seq (look .start) (seq empty (look .stop))).FoundIn s ↔ s = "" := by
  constructor
  · rintro ⟨before, w, after, hs, u, v, rfl, ⟨rfl, hstart⟩, u', v', rfl, rfl, rfl, hstop⟩
    have hbefore : before = [] := by simpa [Look.holds] using hstart
    have hafter : after = [] := by simpa [Look.holds] using hstop
    rw [hbefore, hafter] at hs
    exact String.toList_eq_nil_iff.mp hs
  · rintro rfl
    exact ⟨[], [], [], rfl, [], [], rfl, ⟨rfl, rfl⟩, [], [], rfl, rfl, rfl, rfl⟩

end Regex

/-- An empty pattern fits the empty text alone. -/
theorem AnchoredPattern.fits_iff_of_source_eq {p : AnchoredPattern} (hp : p.source = "")
    (s : String) : p.fits s = true ↔ s = "" := by
  have hregex := p.denotes
  rw [hp, Regex.anchored?_empty] at hregex
  rw [fits, ← Option.some.inj hregex, ← Regex.foundIn_start_stop_iff]
  refine Regex.isMatch_iff ?_ s
  exact ⟨trivial, trivial, trivial⟩

namespace Matcher

variable {m : Matcher} {filter : List Matcher} {labels : LabelSet}

/-! ### One matcher -/

/-- A subject without text, be it a pattern or not, accepts the empty value alone. -/
theorem accepts_iff_of_value_eq (hm : m.value = "") (v : String) :
    m.subject.accepts v = true ↔ v = "" := by
  obtain ⟨name, negated, subject⟩ := m
  cases subject with
  | text value =>
      obtain rfl : value = "" := hm
      exact beq_iff_eq
  | pattern p => exact p.fits_iff_of_source_eq hm v

theorem selectsOne_of_holdsOf (h : m.holdsOf labels = true) : selectsOne labels m = true := by
  rw [selectsOne, h, Bool.or_true]

/-- Among labels with values, the one that a matcher without text looks for is present iff its value
is not the empty one. -/
theorem holdsOf_of_presence (hvalued : labels.get? m.name ≠ some "") (hm : m.value = "")
    (hpresence : m.negated = labels.contains m.name) : m.holdsOf labels = true := by
  have haccepts := accepts_iff_of_value_eq hm (labels.getD m.name "")
  unfold SortedMap.contains at hpresence
  unfold SortedMap.getD at haccepts
  unfold holdsOf holds SortedMap.getD
  cases hget : labels.get? m.name with
  | none =>
      rw [hget] at hpresence haccepts
      rw [hpresence, haccepts.mpr rfl]
      rfl
  | some value =>
      rw [hget] at hpresence haccepts hvalued
      have hvalue : value ≠ "" := fun h => hvalued (congrArg some h)
      rw [hpresence, Bool.eq_false_iff.mpr (mt haccepts.mp hvalue)]
      rfl

theorem selectsOne_iff (hvalued : labels.get? m.name ≠ some "") :
    selectsOne labels m = true ↔ m.holdsOf labels = true := by
  refine ⟨fun h => ?_, selectsOne_of_holdsOf⟩
  rw [selectsOne, Bool.or_eq_true, Bool.and_eq_true, beq_iff_eq, beq_iff_eq] at h
  rcases h with ⟨hm, hpresence⟩ | h
  · exact holdsOf_of_presence hvalued hm hpresence
  · exact h

/-! ### Filters -/

theorem selects_of_holdsOf (h : ∀ m ∈ filter, m.holdsOf labels = true) :
    selects filter labels = true :=
  List.all_eq_true.mpr fun m hm => selectsOne_of_holdsOf (h m hm)

theorem selects_iff_of_valued (hvalued : ∀ name value, labels.get? name = some value → value ≠ "") :
    selects filter labels = true ↔ ∀ m ∈ filter, m.holdsOf labels = true := by
  have hone (m : Matcher) := selectsOne_iff fun h => hvalued m.name "" h rfl
  rw [selects, List.all_eq_true]
  exact forall₂_congr fun m _ => hone m

/-- **A filter selects labels with values iff all its matchers hold of them**, in particular those
of the alerts that are stored after any batches, where it selects what a route with its matchers
accepts.  Of other labels it selects those of which its matchers hold, and maybe more. -/
theorem selects_iff_holdsOf :
    (∀ filter (labels : LabelSet), (∀ name value, labels.get? name = some value → value ≠ "") →
      (selects filter labels = true ↔ ∀ m ∈ filter, m.holdsOf labels = true)) ∧
    (∀ s, AlertStore.Run s → ∀ f a, s.get? f = some a →
      (∀ filter, selects filter a.labels = true ↔ ∀ m ∈ filter, m.holdsOf a.labels = true) ∧
      ∀ node : RouteNode, selects node.matchers a.labels = Route.accepts a.labels node) ∧
    ∀ filter labels, (∀ m ∈ filter, m.holdsOf labels = true) → selects filter labels = true := by
  refine ⟨fun _ _ => selects_iff_of_valued, ?_, fun _ _ => selects_of_holdsOf⟩
  intro s hrun f a ha
  have hvalued := (hrun.sound f a ha).valued
  refine ⟨fun _ => selects_iff_of_valued hvalued, fun node => ?_⟩
  rw [Bool.eq_iff_iff, selects_iff_of_valued hvalued, Route.accepts, List.all_eq_true]

/-- An alert is posted with an empty label next to another one.  As it is stored, it has the latter
and does not have the former, for filters and routes alike. -/
theorem selects_iff_holdsOf_posted : ∃ s a, AlertStore.Run s ∧ s.get? (.of a.labels) = some a ∧
    selects [⟨"job", true, .text ""⟩,
      ⟨"tier", false, .pattern ⟨"", _, Regex.anchored?_empty⟩⟩] a.labels = true ∧
    selects [⟨"tier", true, .text ""⟩] a.labels = false ∧
    Route.accepts a.labels ⟨[⟨"tier", true, .text ""⟩], .initial, false⟩ = false := by
  let posted : Alert.Posted := ⟨.ofList [("job", "b"), ("tier", "")], .empty, none, none, ""⟩
  let s := (AlertStore.empty.ingestBy .empty [posted] ⟨312, 0⟩ ⟨12, 0⟩).2.1
  let a := (posted.toAlertBy ⟨12, 0⟩ ⟨312, 0⟩).withoutEmptyLabels
  have hrun : AlertStore.Run s := .ingest .start .empty [posted] _ _
  have ha : s.get? (.of a.labels) = some a := AlertStore.get?_insert_of_labels .empty a
  obtain ⟨hvalued, hstored, hheld⟩ := selects_iff_holdsOf
  obtain ⟨hselects, haccepts⟩ := hstored s hrun _ a ha
  have hnone : selects [⟨"tier", true, .text ""⟩] a.labels = false := by
    rw [Bool.eq_false_iff, ne_eq, hvalued _ a.labels (hrun.sound _ a ha).valued]
    decide
  refine ⟨s, a, hrun, ha, hheld _ _ (by decide), hnone, ?_⟩
  rw [← haccepts, hnone]

/-- Where a label has no value, a filter may select what its matcher does not hold of. -/
example : selects [⟨"job", true, .text ""⟩] (.ofList [("job", "")]) = true ∧
    holdsOf ⟨"job", true, .text ""⟩ (.ofList [("job", "")]) = false := by
  decide

end Matcher

end AlertRouter
