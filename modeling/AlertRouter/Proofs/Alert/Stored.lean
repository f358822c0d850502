import AlertRouter.Proofs.Delivery.Once
import AlertRouter.Proofs.Outcome

/-! # What the alert store holds

Posted alerts lose their labels without a value, and what is left of them is stored if it passes
`Alert.validate`.  So a batch consists of the alerts that pass (`Batch.valid_ofPosted`), and each of
them is `Alert.Sound` (`Alert.sound_of_isValid`).

Putting an alert changes it once more: it takes over the start of the alert that it continues.  This
start is an earlier one, so the alert stays sound (`Alert.Sound.continued`).  Hence all alerts are
sound in a store that batches were taken into and alerts dropped from, in any order
(`AlertStore.stored_sound`). -/

namespace AlertRouter

namespace Alert

variable {a : Alert}

/-- What holds of every stored alert. -/
structure Sound (a : Alert) : Prop where
  labelled : a.labels ≠ .empty
  valued : ∀ name value, a.labels.get? name = some value → value ≠ ""
  named : ∀ name ∈ a.labels.keys, Label.isName name = true
  annotated : ∀ name ∈ a.annotations.keys, Label.isName name = true
  window : a.startsAt ≤ a.endsAt

/-- Does the alert pass the checks? -/
def isValid (a : Alert) : Bool := a.validate.isOk

/-- What is wrong with the alert, if anything. -/
def refusal? (a : Alert) : Option AlertError :=
  match a.validate with
  | .error e => some e
  | .ok _ => none

/-! ### The checks -/

theorem checkNames_eq_ok_iff {labels : LabelSet} :
    checkNames labels = .ok () ↔ ∀ name ∈ labels.keys, Label.isName name = true := by
  unfold checkNames LabelSet.badName?
  cases hbad : labels.keys.find? (! Label.isName ·) with
  | none => simpa using hbad
  | some name =>
      have hname := List.find?_some hbad
      have hmem := List.mem_of_find?_eq_some hbad
      simp only [reduceCtorEq, false_iff]
      intro hall
      simp [hall name hmem] at hname

theorem validate_eq_ok_iff : a.validate = .ok () ↔ a.startsAt ≤ a.endsAt ∧
    a.labels.isEmpty = false ∧ (∀ name ∈ a.labels.keys, Label.isName name = true) ∧
    ∀ name ∈ a.annotations.keys, Label.isName name = true := by
  unfold validate
  simp only [Except.ite_error_eq_ok_iff, Instant.not_lt, Bool.not_eq_true, Except.bind_eq_ok_iff]
  constructor
  · rintro ⟨hwindow, hlabels, ⟨⟩, hnames, hannotations⟩
    exact ⟨hwindow, hlabels, checkNames_eq_ok_iff.mp hnames, checkNames_eq_ok_iff.mp hannotations⟩
  · rintro ⟨hwindow, hlabels, hnames, hannotations⟩
    exact ⟨hwindow, hlabels, (), checkNames_eq_ok_iff.mpr hnames,
      checkNames_eq_ok_iff.mpr hannotations⟩

theorem isValid_iff : a.isValid = true ↔ a.validate = .ok () := by
  unfold isValid
  cases a.validate with
  | error e => simp [Except.isOk, Except.toBool]
  | ok u => simp [Except.isOk, Except.toBool]

theorem isValid_eq_isNone_refusal? (a : Alert) : a.isValid = a.refusal?.isNone := by
  unfold isValid refusal?
  cases a.validate with
  | error e => rfl
  | ok u => rfl

theorem get?_withoutEmpty {labels : LabelSet} {name value : String}
    (h : labels.withoutEmpty.get? name = some value) : value ≠ "" := by
  unfold LabelSet.withoutEmpty at h
  rw [SortedMap.get?_filter, Option.filter_eq_some_iff] at h
  simpa using h.2

/-- An alert that passes the checks without its empty labels is sound. -/
theorem sound_of_isValid (h : a.withoutEmptyLabels.isValid = true) :
    a.withoutEmptyLabels.Sound := by
  obtain ⟨hwindow, hlabels, hnames, hannotations⟩ := validate_eq_ok_iff.mp (isValid_iff.mp h)
  refine ⟨?_, fun _ _ => get?_withoutEmpty, hnames, hannotations, hwindow⟩
  intro hempty
  rw [hempty] at hlabels
  cases hlabels

/-- The start that an alert takes over is not after its own. -/
theorem Sound.continued (h : a.Sound) (old : Option Alert) :
    (AlertStore.continued old a).Sound := by
  unfold AlertStore.continued
  split
  · next b =>
      split
      · next hcontinues =>
          have hearlier : b.startsAt < a.endsAt := Instant.lt_of_lt_of_le hcontinues.2 h.window
          refine ⟨h.labelled, h.valued, h.named, h.annotated, ?_⟩
          exact (Instant.le_total _ _).resolve_right (Instant.not_le.mpr hearlier)
      · exact h
  · exact h

end Alert

/-! ### Batches -/

namespace Batch

/-- An alert of a batch is stored without its empty labels, or there is something wrong with it. -/
theorem add_cases (now : Instant) (b : Batch) (a : Alert) :
    (a.withoutEmptyLabels.refusal? = none ∧
      ∃ t, add now b a = ⟨b.valid ++ [a.withoutEmptyLabels], b.errors, t⟩) ∨
    (∃ e t, a.withoutEmptyLabels.refusal? = some e ∧
      add now b a = ⟨b.valid, b.errors ++ [e], t⟩) := by
  unfold add Alert.refusal?
  cases hvalidate : a.withoutEmptyLabels.validate with
  | error e =>
      simp only [hvalidate]
      exact .inr ⟨e, _, rfl, rfl⟩
  | ok u =>
      simp only [hvalidate]
      exact .inl ⟨trivial, _, rfl⟩

/-- The alerts of a batch that pass the checks are stored, in the order in which they are given. -/
theorem valid_foldl_add (now : Instant) (alerts : List Alert) (b : Batch) :
    (alerts.foldl (add now) b).valid =
      b.valid ++ (alerts.map (·.withoutEmptyLabels)).filter (·.isValid) := by
  induction alerts generalizing b with
  | nil => simp
  | cons a alerts ih =>
      have hvalid := a.withoutEmptyLabels.isValid_eq_isNone_refusal?
      rw [List.foldl_cons, ih, List.map_cons]
      rcases add_cases now b a with ⟨hnone, t, hadd⟩ | ⟨e, t, hsome, hadd⟩
      · rw [hnone] at hvalid
        rw [hadd, List.filter_cons_of_pos hvalid, List.append_assoc, List.singleton_append]
      · rw [hsome] at hvalid
        rw [hadd, List.filter_cons_of_neg (by simp [hvalid])]

/-- What is wrong with the others is collected, in the same order. -/
theorem errors_foldl_add (now : Instant) (alerts : List Alert) (b : Batch) :
    (alerts.foldl (add now) b).errors =
      b.errors ++ (alerts.map (·.withoutEmptyLabels)).filterMap (·.refusal?) := by
  induction alerts generalizing b with
  | nil => simp
  | cons a alerts ih =>
      rw [List.foldl_cons, ih, List.map_cons]
      rcases add_cases now b a with ⟨hnone, t, hadd⟩ | ⟨e, t, hsome, hadd⟩
      · rw [hadd, List.filterMap_cons_none hnone]
      · rw [hadd, List.filterMap_cons_some hsome, List.append_assoc, List.singleton_append]

theorem valid_ofPosted (t : Tally) (posted : List Alert.Posted) (deadline now : Instant) :
    (ofPosted t posted deadline now).valid =
      (posted.map fun p => (p.toAlertBy now deadline).withoutEmptyLabels).filter (·.isValid) := by
  have hfold := valid_foldl_add now (posted.map (·.toAlertBy now deadline)) (empty t)
  rw [List.foldl_map, List.map_map] at hfold
  exact hfold

theorem errors_ofPosted (t : Tally) (posted : List Alert.Posted) (deadline now : Instant) :
    (ofPosted t posted deadline now).errors =
      (posted.map fun p => (p.toAlertBy now deadline).withoutEmptyLabels).filterMap
        (·.refusal?) := by
  have hfold := errors_foldl_add now (posted.map (·.toAlertBy now deadline)) (empty t)
  rw [List.foldl_map, List.map_map] at hfold
  exact hfold

end Batch

namespace AlertStore

variable {s : AlertStore} {f : Fingerprint} {a : Alert}

/-- What can become of an empty store: batches are taken in, whatever the time and the end of the
alerts that were posted without one, and ended alerts are dropped, whatever the limit. -/
inductive Run : AlertStore → Prop
  | start : Run empty
  | ingest {s : AlertStore} (h : Run s) (t : Tally) (posted : List Alert.Posted)
      (deadline now : Instant) : Run (s.ingestBy t posted deadline now).2.1
  | drop {s : AlertStore} (h : Run s) (limit : Option Instant) :
      Run ⟨s.alerts.filter fun _ a => !isDue limit a⟩

theorem Run.collect (h : Run s) (now : Instant) (retention : Option Int) :
    Run (s.collect now retention) := h.drop (limit now retention)

theorem get?_of_get?_drop {limit : Option Instant}
    (ha : (AlertStore.mk (s.alerts.filter fun _ a => !isDue limit a)).get? f = some a) :
    s.get? f = some a := by
  unfold get? at ha
  rw [SortedMap.get?_filter, Option.filter_eq_some_iff] at ha
  exact ha.1

/-- A stored alert is one that was put, or was stored before. -/
theorem forall_get?_put {P : Alert → Prop} {alerts : List Alert}
    (hstored : ∀ f a, s.get? f = some a → P a)
    (hput : ∀ a ∈ alerts, ∀ old, P (continued old a)) :
    ∀ f a, (s.put alerts).get? f = some a → P a := by
  induction alerts generalizing s with
  | nil => exact hstored
  | cons b alerts ih =>
      obtain ⟨hb, halerts⟩ := List.forall_mem_cons.mp hput
      refine ih ?_ halerts
      intro f a ha
      rw [Hub.get?_insert] at ha
      split at ha
      · cases ha
        exact hb _
      · exact hstored f a ha

theorem mem_keys_put_iff {alerts : List Alert} :
    f ∈ (s.put alerts).alerts.keys ↔ f ∈ s.alerts.keys ∨ ∃ a ∈ alerts, a.fingerprint = f := by
  induction alerts generalizing s with
  | nil => simp [put]
  | cons a alerts ih =>
      rw [show s.put (a :: alerts) = (s.insert a).put alerts from rfl, ih, insert,
        SortedMap.mem_keys_insert]
      simp only [List.mem_cons, exists_eq_or_imp, @eq_comm _ f, or_assoc, or_left_comm]

theorem sound_of_mem_valid {t : Tally} {posted : List Alert.Posted} {deadline now : Instant}
    (ha : a ∈ (Batch.ofPosted t posted deadline now).valid) : a.Sound := by
  rw [Batch.valid_ofPosted, List.mem_filter] at ha
  obtain ⟨ha, hvalid⟩ := ha
  obtain ⟨p, -, rfl⟩ := List.mem_map.mp ha
  exact Alert.sound_of_isValid hvalid

theorem Run.filed (h : Run s) : ∀ f a, s.get? f = some a → a.fingerprint = f := by
  induction h with
  | start => exact fun _ _ => nofun
  | ingest _ t posted deadline now ih => exact Hub.filed_put _ ih
  | drop _ limit ih =>
      intro f a ha
      exact ih f a (get?_of_get?_drop ha)

theorem Run.sound (h : Run s) : ∀ f a, s.get? f = some a → a.Sound := by
  induction h with
  | start => exact fun _ _ => nofun
  | ingest _ t posted deadline now ih =>
      refine forall_get?_put ih ?_
      intro a ha old
      exact (sound_of_mem_valid ha).continued old
  | drop _ limit ih =>
      intro f a ha
      exact ih f a (get?_of_get?_drop ha)

/-- **The alert store is well formed after any batches and droppings.**  Every stored alert is filed
under the fingerprint of its labels, has labels, all of them with names that are well-formed and
with values, has annotations with well-formed names, and does not end before it starts.  No alert
that passes the checks is left out. -/
theorem stored_sound (h : Run s) :
    (∀ f a, s.get? f = some a → f = .of a.labels ∧ a.Sound) ∧
    ∀ t posted deadline now, ∀ p ∈ posted,
      let a := (Alert.Posted.toAlertBy p now deadline).withoutEmptyLabels
      a.validate = .ok () →
        ∃ b, (s.ingestBy t posted deadline now).2.1.get? (.of a.labels) = some b := by
  refine ⟨fun f a ha => ⟨(h.filed f a ha).symm, h.sound f a ha⟩, ?_⟩
  intro t posted deadline now p hp a hvalid
  refine SortedMap.mem_keys_iff_get?.mp (mem_keys_put_iff.mpr (.inr ⟨a, ?_, rfl⟩))
  rw [Batch.valid_ofPosted, List.mem_filter]
  exact ⟨List.mem_map_of_mem hp, Alert.isValid_iff.mpr hvalid⟩

theorem get?_insert_of_labels (s : AlertStore) (a : Alert) :
    (s.insert a).get? (.of a.labels) = some (continued (s.get? (.of a.labels)) a) :=
  (Hub.get?_insert s a a.fingerprint).trans (if_pos rfl)

/-- An alert is posted with an empty label, together with one that has no labels, then again without
times, and dropping spares it: it is stored with its first start and its last end. -/
theorem stored_sound_continued : ∃ s a, Run s ∧ s.get? (.of a.labels) = some a ∧ a.Sound ∧
    a.labels = .ofList [("job", "b")] ∧ a.startsAt = ⟨10, 0⟩ ∧ a.endsAt = ⟨320, 0⟩ := by
  let first : Alert.Posted := ⟨.ofList [("job", "b"), ("tier", "")], .empty, some ⟨10, 0⟩,
    some ⟨90, 0⟩, ""⟩
  let again : Alert.Posted := ⟨.ofList [("job", "b")], .empty, none, none, ""⟩
  let s₁ := (empty.ingestBy .empty [first, default] ⟨312, 0⟩ ⟨12, 0⟩).2.1
  let s₂ := (s₁.ingestBy .empty [again] ⟨320, 0⟩ ⟨20, 0⟩).2.1
  let a := again.toAlertBy ⟨20, 0⟩ ⟨320, 0⟩
  have hrun : Run (s₂.collect ⟨40, 0⟩ (some 10)) :=
    ((Run.start.ingest .empty [first, default] _ _).ingest .empty [again] _ _).collect _ _
  have hfirst : s₁.get? (.of a.labels) = some { a with
      startsAt := ⟨10, 0⟩, endsAt := ⟨90, 0⟩, updatedAt := ⟨12, 0⟩, timeout := false } :=
    get?_insert_of_labels empty _
  have hagain : s₂.get? (.of a.labels) = some { a with startsAt := ⟨10, 0⟩ } := by
    rw [show s₂ = s₁.insert a from rfl, get?_insert_of_labels, hfirst]
    rfl
  have hkept : (s₂.collect ⟨40, 0⟩ (some 10)).get? (.of a.labels) =
      some { a with startsAt := ⟨10, 0⟩ } := by
    rw [collect, get?_collectBy, hagain]
    rfl
  exact ⟨_, _, hrun, hkept, ((stored_sound hrun).1 _ _ hkept).2, rfl, rfl, rfl⟩

end AlertStore

end AlertRouter
