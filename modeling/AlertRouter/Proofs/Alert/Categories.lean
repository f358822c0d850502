import AlertRouter.Proofs.Alert.Listing
import Mathlib.Data.List.Induction

/-! # States of alerts and what a query hides

A marker keeps a state beside the two lists from which it is derived, and forgetting an alert resets
all three.  Whatever has been written, the state agrees with the lists (`Marker.coherent_ofNotes`),
and an alert is unprocessed exactly as long as nothing is `Known` of it.

Each of the four switches of a query hides one `Category`; two are read off the state, two off the
lists.  A query lists what the same query lists with all switches on, without the alerts in a hidden
category (`AlertQuery.list_eq_filter`).  Since coherent statuses are all in some category
(`AlertStatus.Coherent.categories_ne_nil`), a query that hides all categories lists nothing. -/

namespace AlertRouter

/-! ### States -/

namespace AlertStatus

/-- The state agrees with the lists. -/
structure Coherent (s : AlertStatus) : Prop where
  suppressed_iff : s.state = .suppressed ↔ s.silencedBy ≠ [] ∨ s.inhibitedBy ≠ []

theorem coherent_default : (default : AlertStatus).Coherent := ⟨by decide⟩

theorem coherent_ofReasons (silencedBy inhibitedBy : List String) :
    (ofReasons silencedBy inhibitedBy).Coherent := by
  constructor
  unfold ofReasons
  cases silencedBy <;> cases inhibitedBy <;> simp

theorem ofReasons_state_ne (silencedBy inhibitedBy : List String) :
    (ofReasons silencedBy inhibitedBy).state ≠ .unprocessed := by
  unfold ofReasons
  split <;> simp

/-- Nothing holds an alert back that is not suppressed. -/
theorem Coherent.unreasoned {s : AlertStatus} (h : s.Coherent) (hstate : s.state ≠ .suppressed) :
    s.silencedBy = [] ∧ s.inhibitedBy = [] := by
  have hnone := mt h.suppressed_iff.mpr hstate
  rw [not_or, Decidable.not_not, Decidable.not_not] at hnone
  exact hnone

end AlertStatus

namespace Marker

/-- What is written of an alert. -/
inductive Note where
  | silenced (ids : List String)
  | inhibited (ids : List String)
  | active
  | forgotten
deriving DecidableEq, Repr

def write (m : Marker) (f : Fingerprint) : Note → Marker
  | .silenced ids => m.setSilenced f ids
  | .inhibited ids => m.setInhibited f ids
  | .active => m.setActive f
  | .forgotten => m.forget f

/-- The marker after these notes. -/
def ofNotes (notes : List (Fingerprint × Note)) : Marker :=
  notes.foldl (fun m note => m.write note.1 note.2) empty

/-- Something was written of the alert and it has not been forgotten since. -/
def Known (notes : List (Fingerprint × Note)) (f : Fingerprint) : Prop :=
  ∃ earlier note later, notes = earlier ++ (f, note) :: later ∧ note ≠ .forgotten ∧
    (f, .forgotten) ∉ later

/-- The status that a note leaves behind. -/
def Note.status (s : AlertStatus) : Note → AlertStatus
  | .silenced ids => .ofReasons ids s.inhibitedBy
  | .inhibited ids => .ofReasons s.silencedBy ids
  | .active => .ofReasons [] []
  | .forgotten => default

variable {m : Marker} {f g : Fingerprint} {note : Note} {notes : List (Fingerprint × Note)}

theorem status_write_self (m : Marker) (f : Fingerprint) (note : Note) :
    (m.write f note).status f = note.status (m.status f) := by
  cases note with
  | forgotten =>
      unfold write forget status SortedMap.getD
      rw [SortedMap.get?_erase, if_pos Std.ReflCmp.compare_self]
      rfl
  | _ =>
      unfold write setSilenced setInhibited setActive status SortedMap.getD
      simp only [SortedMap.get?_insert_self]
      rfl

theorem status_write_of_ne (m : Marker) (note : Note) (h : g ≠ f) :
    (m.write f note).status g = m.status g := by
  cases note with
  | forgotten =>
      unfold write forget status SortedMap.getD
      rw [SortedMap.get?_erase, if_neg]
      exact fun heq => h (Std.LawfulEqCmp.eq_of_compare heq).symm
  | _ =>
      unfold write setSilenced setInhibited setActive status SortedMap.getD
      simp only [SortedMap.get?_insert_of_ne _ _ h]

theorem Note.exists_reasons (h : note ≠ .forgotten) (s : AlertStatus) :
    ∃ silencedBy inhibitedBy, note.status s = .ofReasons silencedBy inhibitedBy := by
  cases note with
  | forgotten => exact absurd rfl h
  | _ => exact ⟨_, _, rfl⟩

/-! ### After any notes -/

theorem ofNotes_concat (notes : List (Fingerprint × Note)) (f : Fingerprint) (note : Note) :
    ofNotes (notes ++ [(f, note)]) = (ofNotes notes).write f note := by
  rw [ofNotes, List.foldl_append]
  rfl

theorem not_known_nil (f : Fingerprint) : ¬ Known [] f := by
  rintro ⟨earlier, note, later, h, -⟩
  simp at h

/-- The last note makes the alert known if it tells of it, and unknown if it is to forget it. -/
theorem known_concat_iff : Known (notes ++ [(g, note)]) f ↔
    (g, note) ≠ (f, .forgotten) ∧ (g = f ∨ Known notes f) := by
  constructor
  · -- The note that makes the alert known is the last one, or it is one of the notes before.
    rintro ⟨earlier, known, later, hnotes, hknown, hlater⟩
    rcases List.eq_nil_or_concat later with rfl | ⟨later, last, rfl⟩
    · obtain ⟨-, hlast⟩ := List.append_inj' hnotes rfl
      cases hlast
      exact ⟨fun h => hknown (Prod.ext_iff.mp h).2, .inl rfl⟩
    · rw [List.concat_eq_append] at hnotes hlater
      rw [← List.cons_append, ← List.append_assoc] at hnotes
      obtain ⟨rfl, hlast⟩ := List.append_inj' hnotes rfl
      cases hlast
      rw [List.mem_append, List.mem_singleton, not_or] at hlater
      exact ⟨fun h => hlater.2 h.symm, .inr ⟨earlier, known, later, rfl, hknown, hlater.1⟩⟩
  · rintro ⟨hlast, rfl | ⟨earlier, known, later, rfl, hknown, hlater⟩⟩
    · exact ⟨notes, note, [], rfl, fun h => hlast (by rw [h]), nofun⟩
    · refine ⟨earlier, known, later ++ [(g, note)], by simp, hknown, ?_⟩
      rw [List.mem_append, List.mem_singleton, not_or]
      exact ⟨hlater, fun h => hlast h.symm⟩

/-- An alert that nothing is known of has no status, and any other one has one with a reason for its
state. -/
theorem status_ofNotes_cases (notes : List (Fingerprint × Note)) (f : Fingerprint) :
    ¬ Known notes f ∧ (ofNotes notes).status f = default ∨
      Known notes f ∧ ∃ silencedBy inhibitedBy,
        (ofNotes notes).status f = .ofReasons silencedBy inhibitedBy := by
  induction notes using List.reverseRecOn with
  | nil => exact .inl ⟨not_known_nil f, rfl⟩
  | append_singleton notes last ih =>
      obtain ⟨g, note⟩ := last
      rw [ofNotes_concat, known_concat_iff]
      by_cases hg : g = f
      · subst hg
        rw [status_write_self]
        by_cases hnote : note = .forgotten
        · subst hnote
          exact .inl ⟨fun h => h.1 rfl, rfl⟩
        · refine .inr ⟨⟨fun h => hnote (Prod.ext_iff.mp h).2, .inl rfl⟩, ?_⟩
          exact Note.exists_reasons hnote _
      · have hlast : (g, note) ≠ (f, .forgotten) := fun h => hg (Prod.ext_iff.mp h).1
        rw [status_write_of_ne _ _ (Ne.symm hg)]
        simpa only [ne_eq, hlast, not_false_iff, hg, true_and, false_or] using ih

theorem coherent_ofNotes (notes : List (Fingerprint × Note)) (f : Fingerprint) :
    ((ofNotes notes).status f).Coherent := by
  rcases status_ofNotes_cases notes f with ⟨-, h⟩ | ⟨-, _, _, h⟩
  · rw [h]
    exact AlertStatus.coherent_default
  · rw [h]
    exact AlertStatus.coherent_ofReasons _ _

theorem unprocessed_iff_not_known (notes : List (Fingerprint × Note)) (f : Fingerprint) :
    ((ofNotes notes).status f).state = .unprocessed ↔ ¬ Known notes f := by
  rcases status_ofNotes_cases notes f with ⟨hknown, h⟩ | ⟨hknown, _, _, h⟩
  · rw [h]
    exact iff_of_true rfl hknown
  · rw [h]
    exact iff_of_false (AlertStatus.ofReasons_state_ne _ _) (not_not_intro hknown)

end Marker

/-! ### What a query hides -/

/-- The kinds of alerts that a query can hide; an alert may be of two. -/
inductive Category where
  | active
  | unprocessed
  | silenced
  | inhibited
deriving DecidableEq, Repr

namespace AlertStatus

/-- Is an alert of this status of some kind? -/
def isA (s : AlertStatus) : Category → Bool
  | .active => s.state == .active
  | .unprocessed => s.state == .unprocessed
  | .silenced => !s.silencedBy.isEmpty
  | .inhibited => !s.inhibitedBy.isEmpty

def categories (s : AlertStatus) : List Category :=
  [.active, .unprocessed, .silenced, .inhibited].filter s.isA

/-- The categories cover all coherent statuses. -/
theorem Coherent.categories_ne_nil {s : AlertStatus} (h : s.Coherent) : s.categories ≠ [] := by
  have hsome : ∃ c ∈ [Category.active, .unprocessed, .silenced, .inhibited], s.isA c = true := by
    cases hstate : s.state with
    | active => exact ⟨.active, by simp, by rw [isA, hstate]; rfl⟩
    | unprocessed => exact ⟨.unprocessed, by simp, by rw [isA, hstate]; rfl⟩
    | suppressed =>
        rcases h.suppressed_iff.mp hstate with hreason | hreason
        · exact ⟨.silenced, by simp, by simpa [isA] using hreason⟩
        · exact ⟨.inhibited, by simp, by simpa [isA] using hreason⟩
  intro hnone
  obtain ⟨c, hc, his⟩ := hsome
  exact List.filter_eq_nil_iff.mp hnone c hc his

end AlertStatus

namespace AlertQuery

variable {q : AlertQuery} {marker : Marker} {route : LabelSet → List String} {now : Instant}
  {a : Alert}

def hides (q : AlertQuery) : Category → Bool
  | .active => !q.active
  | .unprocessed => !q.unprocessed
  | .silenced => !q.silenced
  | .inhibited => !q.inhibited

/-- Is there nothing that a query hides in this status? -/
def leaves (q : AlertQuery) (s : AlertStatus) : Bool := s.categories.all fun c => !q.hides c

/-- The query with all switches on. -/
def withAll (q : AlertQuery) : AlertQuery :=
  { q with active := true, silenced := true, inhibited := true, unprocessed := true }

theorem admits_iff_leaves {s : AlertStatus} : q.Admits s ↔ q.leaves s = true := by
  rw [← admitsStatus_iff, ← Bool.eq_iff_iff]
  simp only [admitsStatus, leaves, AlertStatus.categories, List.all_filter, List.all_cons,
    List.all_nil, AlertStatus.isA, hides, Bool.not_not, Bool.and_true, bne, Bool.or_comm,
    Bool.and_assoc]

/-- A query asks for the alerts that it would ask for with all switches on and does not hide. -/
theorem shows_iff : q.Shows marker route now a ↔
    q.withAll.Shows marker route now a ∧ q.leaves (marker.status a.fingerprint) = true := by
  constructor
  · rintro ⟨hcurrent, hreceived, hselected, hadmitted⟩
    exact ⟨⟨hcurrent, hreceived, hselected, fun _ => rfl, fun _ => rfl, fun _ => rfl, fun _ => rfl⟩,
      admits_iff_leaves.mp hadmitted⟩
  · rintro ⟨⟨hcurrent, hreceived, hselected, -⟩, hleaves⟩
    exact ⟨hcurrent, hreceived, hselected, admits_iff_leaves.mpr hleaves⟩

theorem view?_eq_filter (q : AlertQuery) (marker : Marker) (route : LabelSet → List String)
    (now : Instant) (a : Alert) : q.view? marker route now a =
      (q.withAll.view? marker route now a).filter fun v => q.leaves v.status := by
  by_cases hall : q.withAll.Shows marker route now a
  · rw [view?_of_shows hall, Option.filter_some]
    split
    · next hleaves => exact view?_of_shows (shows_iff.mpr ⟨hall, hleaves⟩)
    · next hleaves => exact view?_of_not_shows fun h => hleaves (shows_iff.mp h).2
  · rw [view?_of_not_shows hall, Option.filter_none]
    exact view?_of_not_shows fun h => hall (shows_iff.mp h).1

theorem list_eq_filter (q : AlertQuery) (marker : Marker) (route : LabelSet → List String)
    (now : Instant) (stop : Option Nat) (stream : List (Except AlertError Alert)) :
    q.list marker route now stop stream = (q.withAll.list marker route now stop stream).map
      (·.filter fun v => q.leaves v.status) := by
  have hview : q.view? marker route now =
      fun a => (q.withAll.view? marker route now a).filter fun v => q.leaves v.status :=
    funext (view?_eq_filter q marker route now)
  have hsort (alerts : List Alert) :
      (alerts.filterMap (q.view? marker route now)).mergeSort
        (fun v w => compare v.fingerprint w.fingerprint != .gt) =
      ((alerts.filterMap (q.withAll.view? marker route now)).mergeSort
        fun v w => compare v.fingerprint w.fingerprint != .gt).filter (q.leaves ·.status) := by
    rw [List.filter_mergeSort (compare_ne_gt_trans _) (compare_ne_gt_total _),
      List.filter_filterMap, hview]
  rw [list, list]
  cases drain stop stream with
  | error e => rfl
  | ok alerts => exact congrArg Except.ok (hsort alerts)

/-- A query that hides all categories shows nothing, since each status is in some category. -/
theorem list_eq_nil (hcoherent : ∀ f, (marker.status f).Coherent) (hhides : ∀ c, q.hides c = true)
    (route : LabelSet → List String) (now : Instant) (stop : Option Nat)
    (stream : List (Except AlertError Alert)) : q.list marker route now stop stream =
      (q.withAll.list marker route now stop stream).map fun _ => [] := by
  have hnone : q.view? marker route now = fun _ => none := by
    funext a
    apply view?_of_not_shows
    intro h
    obtain ⟨c, hc⟩ := List.exists_mem_of_ne_nil _ (hcoherent a.fingerprint).categories_ne_nil
    have hshown := List.all_eq_true.mp (shows_iff.mp h).2 c hc
    rw [hhides c] at hshown
    cases hshown
  rw [list, list, hnone]
  cases drain stop stream with
  | error e => rfl
  | ok alerts => exact congrArg Except.ok (by simp)

end AlertQuery

namespace Marker

/-- **The states of a marker and the switches of a query cover all alerts.**  Whatever has been
written into a marker, an alert is suppressed exactly if one of its two lists is not empty; both are
empty if it is active or unprocessed, and it is unprocessed exactly if nothing is known of it.
Every query lists what the same query lists with all switches on, without the alerts in a hidden
category.  With all switches off it lists nothing. -/
theorem categories_cover (notes : List (Fingerprint × Note)) :
    let marker := ofNotes notes
    (∀ f, let status := marker.status f
      (status.state = .suppressed ↔ status.silencedBy ≠ [] ∨ status.inhibitedBy ≠ []) ∧
      (status.state = .active ∨ status.state = .unprocessed →
        status.silencedBy = [] ∧ status.inhibitedBy = []) ∧
      (status.state = .unprocessed ↔ ¬ Known notes f) ∧ status.categories ≠ []) ∧
    ∀ (q : AlertQuery) (route : LabelSet → List String) now stop stream,
      q.list marker route now stop stream = (q.withAll.list marker route now stop stream).map
        (·.filter fun v => v.status.categories.all fun c => !q.hides c) ∧
      ((∀ c, q.hides c = true) → q.list marker route now stop stream =
        (q.withAll.list marker route now stop stream).map fun _ => []) := by
  intro marker
  have hcoherent := coherent_ofNotes notes
  constructor
  · intro f
    refine ⟨(hcoherent f).suppressed_iff, ?_, unprocessed_iff_not_known notes f,
      (hcoherent f).categories_ne_nil⟩
    intro hstate
    apply (hcoherent f).unreasoned
    intro hsuppressed
    rw [hsuppressed] at hstate
    simp at hstate
  · intro q route now stop stream
    refine ⟨AlertQuery.list_eq_filter q marker route now stop stream, ?_⟩
    exact fun hhides => AlertQuery.list_eq_nil hcoherent hhides route now stop stream

-- An inhibited alert stays suppressed when it is no longer silenced.
example : ((ofNotes [(⟨7⟩, .silenced ["s"]), (⟨7⟩, .inhibited ["a"]),
    (⟨7⟩, .silenced [])]).status ⟨7⟩).state = .suppressed := by decide

end Marker

end AlertRouter
