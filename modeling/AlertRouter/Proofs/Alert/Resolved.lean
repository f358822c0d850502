import AlertRouter.Proofs.Delivery.Exact

/-! # When an alert counts as resolved

An alert is resolved from its end on (`Alert.resolvedAt`).  Four parts of the system ask for it: the
listing, the counters of what comes in, the pass, and the dropping of ended alerts.  Each of them
compares the end with the present on its own.

`Judged` says what they make of a stored alert.  The counters, the pass and the dropping go by
`resolvedAt`.  The listing has an alert a moment longer, at the very instant of its end
(`resolved_judged`), when it is resolved already (`list_all_resolved`). -/

namespace AlertRouter

variable {a : Alert} {now : Instant}

namespace Alert

theorem resolvedAt_eq_false_iff : a.resolvedAt now = false ↔ now < a.endsAt := by
  rw [resolvedAt, decide_eq_false_iff_not, Instant.not_le]

theorem resolvedAt_congr {b : Alert} (h : b.endsAt = a.endsAt) :
    b.resolvedAt now = a.resolvedAt now := by
  rw [resolvedAt, resolvedAt, h]

/-- That an alert has not ended before is one instant more than that it is not resolved. -/
theorem le_endsAt_iff : now ≤ a.endsAt ↔ a.resolvedAt now = false ∨ a.endsAt = now := by
  rw [resolvedAt_eq_false_iff, ← Instant.not_le]
  constructor
  · intro h
    by_cases h' : a.endsAt ≤ now
    · exact .inr (Instant.le_antisymm h' h)
    · exact .inl h'
  · rintro (h | rfl)
    · exact (Instant.le_total _ _).resolve_left h
    · exact Instant.le_refl _

end Alert

/-! ### The listing -/

namespace AlertQuery

variable {marker : Marker} {route : LabelSet → List String}

theorem drain_map_ok (alerts : List Alert) : drain none (alerts.map .ok) = .ok alerts := by
  induction alerts with
  | nil => rfl
  | cons a alerts ih =>
      unfold drain
      simp only [List.map_cons, Option.map_none, ih]
      rfl

theorem view?_all : all.view? marker route now a =
    if now ≤ a.endsAt then some (.ofAlert a (marker.status a.fingerprint) (route a.labels))
    else none := by
  simp [view?, all, admitsReceivers, admitsStatus, Matcher.selects]

theorem list_all_eq (s : AlertStore) (marker : Marker) (route : LabelSet → List String)
    (now : Instant) : all.list marker route now none (AlertStore.stream (.up s)) =
      .ok ((s.toList.filterMap (all.view? marker route now)).mergeSort fun a b =>
        compare a.fingerprint b.fingerprint != .gt) := by
  rw [list, AlertStore.stream, Remote.up, drain_map_ok]
  rfl

/-- The listing of all alerts is of those that have not ended before. -/
theorem exists_list_all (s : AlertStore) (marker : Marker) (route : LabelSet → List String)
    (now : Instant) :
    ∃ views, all.list marker route now none (AlertStore.stream (.up s)) = .ok views ∧
      ∀ v, v ∈ views ↔ ∃ a ∈ s.toList, now ≤ a.endsAt ∧
        .ofAlert a (marker.status a.fingerprint) (route a.labels) = v := by
  refine ⟨_, list_all_eq s marker route now, ?_⟩
  intro v
  simp [List.mem_mergeSort, List.mem_filterMap, view?_all]

/-- A stored alert is listed if it has not ended before. -/
theorem exists_list_all_iff {s : AlertStore} {f : Fingerprint} (ha : s.get? f = some a)
    (marker : Marker) (route : LabelSet → List String) (now : Instant) :
    ∃ views, all.list marker route now none (AlertStore.stream (.up s)) = .ok views ∧
      (.ofAlert a (marker.status a.fingerprint) (route a.labels) ∈ views ↔ now ≤ a.endsAt) := by
  obtain ⟨views, hviews, hmem⟩ := exists_list_all s marker route now
  refine ⟨views, hviews, ?_⟩
  rw [hmem]
  constructor
  · -- An alert that is shown in the same way ends at the same time.
    rintro ⟨b, -, hb, hview⟩
    exact (AlertView.mk.inj hview).2.2.2.1 ▸ hb
  · intro h
    exact ⟨a, SortedMap.mem_values_iff.mpr ⟨f, ha⟩, h, rfl⟩

end AlertQuery

/-! ### The counters -/

namespace Batch

/-- An alert counts as firing or as resolved, whether or not it is refused. -/
theorem tally_add (now : Instant) (b : Batch) (a : Alert) :
    (b.add now a).tally.firing.getD 0 =
        b.tally.firing.getD 0 + (if a.resolvedAt now then 0 else 1) ∧
      (b.add now a).tally.resolved.getD 0 =
        b.tally.resolved.getD 0 + (if a.resolvedAt now then 1 else 0) := by
  unfold add
  cases hresolved : a.resolvedAt now with
  | false =>
      have hfiring : now < a.endsAt := Alert.resolvedAt_eq_false_iff.mp hresolved
      simp only [if_pos hfiring]
      split
      · exact ⟨rfl, rfl⟩
      · exact ⟨rfl, rfl⟩
  | true =>
      have hended : ¬ now < a.endsAt := by
        intro h
        rw [Alert.resolvedAt_eq_false_iff.mpr h] at hresolved
        cases hresolved
      simp only [if_neg hended]
      split
      · exact ⟨rfl, rfl⟩
      · exact ⟨rfl, rfl⟩

/-- Of the alerts that are sorted into a batch those that are not resolved count as firing. -/
theorem tally_foldl_add (alerts : List Alert) (b : Batch) :
    (alerts.foldl (add now) b).tally.firing.getD 0 =
        b.tally.firing.getD 0 + alerts.countP (!·.resolvedAt now) ∧
      (alerts.foldl (add now) b).tally.resolved.getD 0 =
        b.tally.resolved.getD 0 + alerts.countP (·.resolvedAt now) := by
  induction alerts generalizing b with
  | nil => exact ⟨rfl, rfl⟩
  | cons a alerts ih =>
      rw [List.foldl_cons, (ih _).1, (ih _).2, (tally_add now b a).1, (tally_add now b a).2,
        List.countP_cons, List.countP_cons]
      cases a.resolvedAt now with
      | false => simp; omega
      | true => simp; omega

end Batch

namespace AlertStore

/-- What a batch of posted alerts adds to the counters. -/
theorem tally_ingestBy (s : AlertStore) (t : Tally) (posted : List Alert.Posted)
    (deadline now : Instant) :
    (s.ingestBy t posted deadline now).2.2.firing.getD 0 = t.firing.getD 0 +
        posted.countP (fun p => !(p.toAlertBy now deadline).resolvedAt now) ∧
      (s.ingestBy t posted deadline now).2.2.resolved.getD 0 = t.resolved.getD 0 +
        posted.countP (fun p => (p.toAlertBy now deadline).resolvedAt now) := by
  have hfold : (s.ingestBy t posted deadline now).2.2 =
      ((posted.map (·.toAlertBy now deadline)).foldl (Batch.add now) (.empty t)).tally := by
    rw [List.foldl_map]
    rfl
  rw [hfold, (Batch.tally_foldl_add _ _).1, (Batch.tally_foldl_add _ _).2, List.countP_map,
    List.countP_map]
  exact ⟨rfl, rfl⟩

theorem tally_ingest (s : AlertStore) (t : Tally) (posted : List Alert.Posted) (timeout : Nat)
    (now : Instant) :
    (s.ingest t posted timeout now).2.2.firing.getD 0 = t.firing.getD 0 +
        posted.countP (fun p => !(p.toAlert now timeout).resolvedAt now) ∧
      (s.ingest t posted timeout now).2.2.resolved.getD 0 = t.resolved.getD 0 +
        posted.countP (fun p => (p.toAlert now timeout).resolvedAt now) :=
  s.tally_ingestBy t posted (now.addSeconds timeout) now

end AlertStore

/-! ### The pass -/

/-- Of the deliveries that a pass tries and that have not been made as firing yet, those are made as
firing whose alert is not resolved. -/
theorem Hub.sent_firing_iff {h : Hub} {s : Snapshot} {x : Delivery}
    (hs : h.dispatcher.snapshot = some s) (hnamed : s.table.Named) (hup : h.alerts.outage = none)
    (hfiled : h.Filed) (ha : h.alerts.store.get? a.fingerprint = some a)
    (hx : x ∈ Dispatcher.attempts s h.silences now a)
    (hnew : h.dispatcher.delivered.get? x.key ≠ some ⟨a.updatedAt, false⟩) :
    (x ∈ (h.dispatch now).2 ∧
      (h.dispatch now).1.dispatcher.delivered.get? x.key = some ⟨a.updatedAt, false⟩) ↔
    a.resolvedAt now = false := by
  have hsent : Dispatcher.Sent now h.dispatcher.delivered _ _ :=
    sent_pass hs hnamed hup hfiled (.refl _)
  rw [← dispatch_eq_pass] at hsent
  have htried := List.mem_flatMap_of_mem ((mem_readable_iff hup hfiled (.refl _)).mpr ha) hx
  obtain ⟨rfl, -⟩ := Dispatcher.mem_candidates_of_mem_attempts hx
  constructor
  · rintro ⟨hmem, hrecord⟩
    obtain ⟨-, hwanted, -⟩ := (hsent.mem_iff x).mp hmem
    have hrecorded := hsent.recorded x htried hwanted
    rw [hrecord] at hrecorded
    exact (Delivered.mk.inj (Option.some.inj hrecorded)).2.symm
  · intro hfiring
    have hsentAt : x.sentAt now = ⟨x.alert.updatedAt, false⟩ := by
      rw [Delivery.sentAt, hfiring]
    rw [← hsentAt] at hnew ⊢
    exact ⟨(hsent.mem_iff x).mpr ⟨htried, .inl hfiring, hnew⟩,
      hsent.recorded x htried (.inl hfiring)⟩

/-! ### Dropping -/

namespace AlertStore

variable {s : AlertStore} {f : Fingerprint}

theorem isDue_limit_zero (now : Instant) (a : Alert) :
    isDue (limit now (some 0)) a = a.resolvedAt now := rfl

/-- With no time to keep them, the alerts are dropped that are resolved. -/
theorem get?_collect_zero_iff (ha : s.get? f = some a) :
    (s.collect now (some 0)).get? f = some a ↔ a.resolvedAt now = false := by
  rw [collect, get?_collectBy, ha, Option.filter_some, isDue_limit_zero]
  cases a.resolvedAt now with
  | false => simp
  | true => simp

theorem mem_due_zero_iff (ha : s.get? f = some a) :
    f ∈ s.due now (some 0) ↔ a.resolvedAt now = true := by
  rw [due, mem_dueBy_iff]
  simp [ha, isDue_limit_zero]

/-! ### All of them -/

/-- What the parts of the system make at `now` of an alert that is stored under `f`. -/
structure Judged (s : AlertStore) (marker : Marker) (route : Route) (now : Instant)
    (f : Fingerprint) (a : Alert) : Prop where
  /-- The listing of all alerts has it until it is resolved, and at the instant of its end. -/
  listed : ∃ views,
    AlertQuery.all.list marker route.receiversFor now none (stream (.up s)) = .ok views ∧
    (.ofAlert a (marker.status a.fingerprint) (route.receiversFor a.labels) ∈ views ↔
      a.resolvedAt now = false ∨ a.endsAt = now)
  /-- Posted in whatever batch, with the same end, it counts as firing until it is resolved. -/
  firing : ∀ t before p after timeout, (p.toAlert now timeout).endsAt = a.endsAt →
    ((s.ingest t (before ++ p :: after) timeout now).2.2.firing.getD 0 =
      (s.ingest t (before ++ after) timeout now).2.2.firing.getD 0 + 1 ↔
    a.resolvedAt now = false)
  /-- From then on it counts as resolved. -/
  resolved : ∀ t before p after timeout, (p.toAlert now timeout).endsAt = a.endsAt →
    ((s.ingest t (before ++ p :: after) timeout now).2.2.resolved.getD 0 =
      (s.ingest t (before ++ after) timeout now).2.2.resolved.getD 0 + 1 ↔
    a.resolvedAt now = true)
  /-- A pass that tries to deliver it, and has not done so as firing, does so until it is
  resolved. -/
  passed : ∀ (h : Hub) (sn : Snapshot) (x : Delivery), h.alerts = .up s → h.Filed →
    h.dispatcher.snapshot = some sn → sn.table.Named →
    x ∈ Dispatcher.attempts sn h.silences now a →
    h.dispatcher.delivered.get? x.key ≠ some ⟨a.updatedAt, false⟩ →
    ((x ∈ (h.dispatch now).2 ∧
      (h.dispatch now).1.dispatcher.delivered.get? x.key = some ⟨a.updatedAt, false⟩) ↔
    a.resolvedAt now = false)
  /-- With no time to keep it, it is kept until it is resolved. -/
  kept : (s.collect now (some 0)).get? f = some a ↔ a.resolvedAt now = false
  /-- From then on it is dropped. -/
  dropped : f ∈ s.due now (some 0) ↔ a.resolvedAt now = true

/-- **The parts of the system agree on which alerts are resolved**, but for the listing: at the very
instant of its end an alert is listed that all others take as resolved. -/
theorem resolved_judged (ha : s.get? f = some a) (marker : Marker) (route : Route)
    (now : Instant) : Judged s marker route now f a where
  listed := by
    obtain ⟨views, hviews, hmem⟩ :=
      AlertQuery.exists_list_all_iff ha marker route.receiversFor now
    exact ⟨views, hviews, hmem.trans Alert.le_endsAt_iff⟩
  firing t before p after timeout hp := by
    rw [(tally_ingest s t _ timeout now).1, (tally_ingest s t _ timeout now).1,
      List.countP_append, List.countP_append, List.countP_cons, Alert.resolvedAt_congr hp]
    cases a.resolvedAt now with
    | false => simp; omega
    | true => simp
  resolved t before p after timeout hp := by
    rw [(tally_ingest s t _ timeout now).2, (tally_ingest s t _ timeout now).2,
      List.countP_append, List.countP_append, List.countP_cons, Alert.resolvedAt_congr hp]
    cases a.resolvedAt now with
    | false => simp
    | true => simp; omega
  passed h sn x hstore hfiled hs hnamed hx hnew := by
    have hstored : h.alerts.store.get? f = some a := hstore ▸ ha
    obtain rfl := hfiled f a hstored
    exact Hub.sent_firing_iff hs hnamed (hstore ▸ rfl) hfiled hstored hx hnew
  kept := get?_collect_zero_iff ha
  dropped := mem_due_zero_iff ha

/-- An alert is sent before its end; at its end it is listed, but no longer kept. -/
theorem resolved_judged_at_end : ∃ (h : Hub) (sn : Snapshot) (x : Delivery) (s : AlertStore)
    (a : Alert), s.get? a.fingerprint = some a ∧ h.alerts = .up s ∧ h.Filed ∧
    h.dispatcher.snapshot = some sn ∧ sn.table.Named ∧
    x ∈ Dispatcher.attempts sn h.silences default a ∧
    a.resolvedAt default = false ∧ x ∈ (h.dispatch default).2 ∧
    a.resolvedAt a.endsAt = true ∧ (s.collect a.endsAt (some 0)).get? a.fingerprint ≠ some a ∧
    ∃ views, AlertQuery.all.list h.marker sn.table.route.receiversFor a.endsAt none
        (stream (.up s)) = .ok views ∧
      .ofAlert a (h.marker.status a.fingerprint) (sn.table.route.receiversFor a.labels) ∈
        views := by
  let a : Alert := { (default : Alert) with endsAt := ⟨1, 0⟩, labels := .ofList [("job", "b")] }
  let s := empty.put [a]
  obtain ⟨table, htable⟩ : ∃ table, RoutingTable.ofConfig .twoRoutes .standard none = .ok table :=
    ⟨_, rfl⟩
  let sn : Snapshot := ⟨1, .twoRoutes, table⟩
  let h : Hub := ((Hub.empty none).put [a]).install sn
  have ha : s.get? a.fingerprint = some a := by
    rw [show s = empty.insert a from rfl, Hub.get?_insert, if_pos rfl]
    rfl
  have hfiled : h.Filed := Hub.filed_put [a] fun _ _ => nofun
  have hnamed : sn.table.Named := RoutingTable.named_of_ofConfig htable
  obtain ⟨x, hx⟩ : ∃ x, x ∈ Dispatcher.attempts sn h.silences default a := by
    cases htable
    exact List.exists_mem_of_ne_nil _ (by decide +kernel)
  have hfiring := resolved_judged ha h.marker sn.table.route default
  have hended := resolved_judged ha h.marker sn.table.route a.endsAt
  obtain ⟨views, hviews, hmem⟩ := hended.listed
  refine ⟨h, sn, x, s, a, ha, rfl, hfiled, rfl, hnamed, hx, rfl, ?_, rfl, ?_, views, hviews, ?_⟩
  · exact ((hfiring.passed h sn x rfl hfiled rfl hnamed hx nofun).mpr rfl).1
  · exact fun hkept => nomatch hended.kept.mp hkept
  · exact hmem.mpr (.inr rfl)

/-- At the instant of its end an alert is resolved and would be dropped, but it is listed, whatever
is known about it and wherever it is routed to. -/
theorem list_all_resolved : ∃ (s : AlertStore) (a : Alert) (now : Instant),
    s.get? a.fingerprint = some a ∧ a.validate = .ok () ∧ a.resolvedAt now = true ∧
    (s.collect now (some 0)).get? a.fingerprint ≠ some a ∧
    ∀ (marker : Marker) (route : Route), ∃ views,
      AlertQuery.all.list marker route.receiversFor now none (stream (.up s)) = .ok views ∧
      .ofAlert a (marker.status a.fingerprint) (route.receiversFor a.labels) ∈ views := by
  let a : Alert := { (default : Alert) with labels := .ofList [("job", "b")] }
  have ha : (empty.insert a).get? a.fingerprint = some a := by
    rw [Hub.get?_insert, if_pos rfl]
    rfl
  refine ⟨empty.insert a, a, a.endsAt, ha, rfl, rfl, ?_, ?_⟩
  · exact fun hkept => nomatch (get?_collect_zero_iff ha).mp hkept
  · intro marker route
    obtain ⟨views, hviews, hmem⟩ :=
      AlertQuery.exists_list_all_iff ha marker route.receiversFor a.endsAt
    exact ⟨views, hviews, hmem.mpr (Instant.le_refl _)⟩

end AlertStore

end AlertRouter
