import AlertRouter.Proofs.Delivery.Once
import AlertRouter.Proofs.Silence.Muting

/-! # The attempts of a pass

A pass tries one delivery after another and looks at what is on record while it changes it.
`Sent` says what has come of the attempts that were made in terms of what was on record before the
first one: as long as the keys tell the deliveries apart, no attempt is in the way of another, and
one that is made twice counts once.  `Marked` says the same of the marks that alerts get. -/

namespace AlertRouter

/-- Does the integration want the alert as it is at `now`? -/
def Delivery.Wanted (now : Instant) (x : Delivery) : Prop :=
  x.alert.resolvedAt now = false ∨ x.integration.sendsResolved = true

namespace Dispatcher

variable {s : Snapshot} {silences : Remote SilenceStore} {now : Instant}
  {records : SortedMap DeliveryKey Delivered} {tried : List Delivery} {x : Sending} {e : Delivery}

/-! ### Deliveries -/

/-- A delivery is made if it is wanted and differs from what was sent last. -/
theorem attempt_cases (now : Instant) (x : Sending) (e : Delivery) :
    (e.Wanted now → x.1.get? e.key = some (e.sentAt now)) ∧ attempt now x e = x ∨
    e.Wanted now ∧ x.1.get? e.key ≠ some (e.sentAt now) ∧
      attempt now x e = (x.1.insert e.key (e.sentAt now), x.2 ++ [e]) := by
  unfold attempt send
  simp only
  split
  · next h =>
      refine .inl ⟨fun hwanted => ?_, rfl⟩
      rw [Bool.or_eq_true, Bool.and_eq_true, Bool.not_eq_true'] at h
      rcases h with ⟨hresolved, hsends⟩ | hrecord
      · rcases hwanted with hfiring | hwanted
        · rw [hfiring] at hresolved
          cases hresolved
        · rw [hwanted] at hsends
          cases hsends
      · exact eq_of_beq hrecord
  · next h =>
      rw [Bool.or_eq_true, Bool.and_eq_true, Bool.not_eq_true', not_or] at h
      obtain ⟨hwanted, hrecord⟩ := h
      refine .inr ⟨?_, fun heq => hrecord (beq_iff_eq.mpr heq), rfl⟩
      cases hresolved : e.alert.resolvedAt now with
      | false => exact .inl hresolved
      | true =>
          refine .inr ?_
          cases hsends : e.integration.sendsResolved with
          | true => rfl
          | false => exact absurd ⟨hresolved, hsends⟩ hwanted

/-- What is sent by some attempts is what was tried. -/
theorem mem_foldl_attempt {d : Delivery} (h : d ∈ (tried.foldl (attempt now) x).2) :
    d ∈ x.2 ∨ d ∈ tried := by
  induction tried generalizing x with
  | nil => exact .inl h
  | cons e tried ih =>
      rcases ih h with hd | hd
      · rcases attempt_cases now x e with ⟨-, heq⟩ | ⟨-, -, heq⟩
        · rw [heq] at hd
          exact .inl hd
        · rw [heq, List.mem_append, List.mem_singleton] at hd
          rcases hd with hd | rfl
          · exact .inl hd
          · exact .inr (List.mem_cons_self ..)
      · exact .inr (List.mem_cons_of_mem _ hd)

/-- What has come of the deliveries that were tried, `records` being what was on record before. -/
structure Sent (now : Instant) (records : SortedMap DeliveryKey Delivered) (tried : List Delivery)
    (x : Sending) : Prop where
  recorded : ∀ d ∈ tried, d.Wanted now → x.1.get? d.key = some (d.sentAt now)
  kept : ∀ key, (∀ d ∈ tried, d.Wanted now → d.key ≠ key) → x.1.get? key = records.get? key
  mem_iff : ∀ d, d ∈ x.2 ↔
    d ∈ tried ∧ d.Wanted now ∧ records.get? d.key ≠ some (d.sentAt now)
  once : (x.2.map Delivery.key).Nodup

theorem Sent.nil : Sent now records [] (records, []) where
  recorded := by simp
  kept := by simp
  mem_iff := by simp
  once := .nil

/-- What is on record after some attempts, but was not before, has been tried. -/
theorem Sent.mem_tried (h : Sent now records tried x)
    (hkey : ∀ d ∈ tried, d.key = e.key → d = e) (hafter : x.1.get? e.key = some (e.sentAt now))
    (hbefore : records.get? e.key ≠ some (e.sentAt now)) : e ∈ tried := by
  by_contra hnew
  refine hbefore ?_
  rw [← h.kept e.key, hafter]
  intro d hd _ heq
  exact hnew (hkey d hd heq ▸ hd)

/-- Nothing is sent for a delivery that is not wanted or is on record already. -/
theorem Sent.skip (h : Sent now records tried x) (hkey : ∀ d ∈ tried, d.key = e.key → d = e)
    (hskip : e.Wanted now → x.1.get? e.key = some (e.sentAt now)) :
    Sent now records (tried ++ [e]) x := by
  refine ⟨?_, ?_, ?_, h.once⟩
  · intro d hd hwanted
    rcases List.mem_append.mp hd with hd | hd
    · exact h.recorded d hd hwanted
    · rw [List.mem_singleton.mp hd] at hwanted ⊢
      exact hskip hwanted
  · intro key hother
    exact h.kept key fun d hd => hother d (List.mem_append_left _ hd)
  · intro d
    rw [h.mem_iff d]
    constructor
    · rintro ⟨hd, hdue⟩
      exact ⟨List.mem_append_left _ hd, hdue⟩
    · rintro ⟨hd, hwanted, hbefore⟩
      refine ⟨?_, hwanted, hbefore⟩
      rcases List.mem_append.mp hd with hd | hd
      · exact hd
      · obtain rfl := List.mem_singleton.mp hd
        exact h.mem_tried hkey (hskip hwanted) hbefore

/-- A wanted delivery that is not on record is sent, and then it is. -/
theorem Sent.send (h : Sent now records tried x) (hkey : ∀ d ∈ tried, d.key = e.key → d = e)
    (hwanted : e.Wanted now) (hrecord : x.1.get? e.key ≠ some (e.sentAt now)) :
    Sent now records (tried ++ [e]) (x.1.insert e.key (e.sentAt now), x.2 ++ [e]) := by
  -- Had the same key been tried before, it would have been this delivery, and on record.
  have hother : ∀ d ∈ tried, d.Wanted now → d.key ≠ e.key := by
    intro d hd hdwanted hdkey
    obtain rfl := hkey d hd hdkey
    exact hrecord (h.recorded d hd hdwanted)
  have hbefore : records.get? e.key ≠ some (e.sentAt now) := by
    rwa [← h.kept e.key hother]
  refine ⟨?_, ?_, ?_, ?_⟩
  · intro d hd hdwanted
    rcases List.mem_append.mp hd with hd | hd
    · rw [SortedMap.get?_insert_of_ne _ _ (hother d hd hdwanted)]
      exact h.recorded d hd hdwanted
    · rw [List.mem_singleton.mp hd]
      exact SortedMap.get?_insert_self _ _ _
  · intro key hkey'
    rw [SortedMap.get?_insert_of_ne _ _ (hkey' e (by simp) hwanted).symm]
    exact h.kept key fun d hd => hkey' d (List.mem_append_left _ hd)
  · intro d
    rw [List.mem_append, List.mem_append, List.mem_singleton, h.mem_iff d]
    constructor
    · rintro (⟨hd, hdue⟩ | rfl)
      · exact ⟨.inl hd, hdue⟩
      · exact ⟨.inr rfl, hwanted, hbefore⟩
    · rintro ⟨hd | rfl, hdue⟩
      · exact .inl ⟨hd, hdue⟩
      · exact .inr rfl
  · rw [List.map_append, List.map_singleton, List.nodup_append]
    refine ⟨h.once, by simp, ?_⟩
    intro key hmem key' hmem'
    obtain ⟨d, hd, rfl⟩ := List.mem_map.mp hmem
    obtain ⟨htried, hdwanted, -⟩ := (h.mem_iff d).mp hd
    rw [List.mem_singleton.mp hmem']
    exact hother d htried hdwanted

theorem Sent.attempt (h : Sent now records tried x)
    (hkey : ∀ d ∈ tried, d.key = e.key → d = e) :
    Sent now records (tried ++ [e]) (attempt now x e) := by
  rcases attempt_cases now x e with ⟨hskip, heq⟩ | ⟨hwanted, hrecord, heq⟩
  · rw [heq]
    exact h.skip hkey hskip
  · rw [heq]
    exact h.send hkey hwanted hrecord

/-- What comes of all attempts, if the keys tell them apart. -/
theorem sent_foldl_attempt (hkey : ∀ d ∈ tried, ∀ e ∈ tried, d.key = e.key → d = e) :
    Sent now records tried (tried.foldl (attempt now) (records, [])) := by
  induction tried using List.reverseRecOn with
  | nil => exact .nil
  | append_singleton tried e ih =>
      rw [List.foldl_append, List.foldl_cons, List.foldl_nil]
      refine (ih ?_).attempt ?_
      · intro d hd e' he'
        exact hkey d (List.mem_append_left _ hd) e' (List.mem_append_left _ he')
      · intro d hd
        exact hkey d (List.mem_append_left _ hd) e (by simp)

/-! ### Marks -/

/-- What is marked once some alerts were looked at, `m` being the marker before. -/
structure Marked (records : List SilenceRecord) (now : Instant) (m : Marker) (seen : List Alert)
    (m' : Marker) : Prop where
  marked : ∀ a ∈ seen, m'.statuses.get? a.fingerprint = some
    (.ofReasons (Silence.muters records a.labels now) (m.status a.fingerprint).inhibitedBy)
  unmarked : ∀ f, (∀ a ∈ seen, a.fingerprint ≠ f) → m'.statuses.get? f = m.statuses.get? f

variable {m m' : Marker} {seen : List Alert} {a : Alert}

/-- The alerts that inhibit another are left as they were. -/
theorem Marked.inhibitedBy {records : List SilenceRecord} (h : Marked records now m seen m')
    (f : Fingerprint) : (m'.status f).inhibitedBy = (m.status f).inhibitedBy := by
  by_cases hseen : ∃ a ∈ seen, a.fingerprint = f
  · obtain ⟨a, ha, rfl⟩ := hseen
    unfold Marker.status SortedMap.getD
    rw [h.marked a ha]
    rfl
  · have hunmarked := h.unmarked f fun a ha heq => hseen ⟨a, ha, heq⟩
    unfold Marker.status SortedMap.getD
    rw [hunmarked]

theorem Marked.nil {records : List SilenceRecord} : Marked records now m [] m where
  marked := by simp
  unmarked := by simp

theorem Marked.mark (h : Marked silences.store.toList now m seen m')
    (htells : SilenceStore.Tells silences a.labels now)
    (hseen : ∀ b ∈ seen, b.fingerprint = a.fingerprint → b = a) :
    Marked silences.store.toList now m (seen ++ [a]) (mark silences now m' a) := by
  unfold Dispatcher.mark
  rw [htells.ask_eq]
  refine ⟨?_, ?_⟩
  · intro b hb
    by_cases heq : b.fingerprint = a.fingerprint
    · have hba : b = a := by
        rcases List.mem_append.mp hb with hb | hb
        · exact hseen b hb heq
        · exact List.mem_singleton.mp hb
      rw [hba, ← h.inhibitedBy]
      exact SortedMap.get?_insert_self _ _ _
    · have hb : b ∈ seen := by
        rcases List.mem_append.mp hb with hb | hb
        · exact hb
        · exact absurd (List.mem_singleton.mp hb ▸ rfl) heq
      rw [← h.marked b hb]
      exact SortedMap.get?_insert_of_ne _ _ heq
  · intro f hother
    rw [← h.unmarked f fun b hb => hother b (List.mem_append_left _ hb)]
    exact SortedMap.get?_insert_of_ne _ _ (hother a (by simp)).symm

/-- What is marked after all alerts, if their fingerprints tell them apart. -/
theorem marked_foldl_mark
    (htells : ∀ a ∈ seen, SilenceStore.Tells silences a.labels now)
    (hseen : ∀ a ∈ seen, ∀ b ∈ seen, a.fingerprint = b.fingerprint → a = b) :
    Marked silences.store.toList now m seen (seen.foldl (mark silences now) m) := by
  induction seen using List.reverseRecOn with
  | nil => exact .nil
  | append_singleton seen a ih =>
      rw [List.foldl_append, List.foldl_cons, List.foldl_nil]
      refine (ih ?_ ?_).mark (htells a (by simp)) ?_
      · intro b hb
        exact htells b (List.mem_append_left _ hb)
      · intro b hb c hc
        exact hseen b (List.mem_append_left _ hb) c (List.mem_append_left _ hc)
      · intro b hb
        exact hseen b (List.mem_append_left _ hb) a (by simp)

/-! ### What is tried -/

theorem mem_candidates_iff {labels : LabelSet} {i : Integration} :
    i ∈ candidates s labels ↔ ∃ name ∈ s.table.receiversFor labels, ∃ is,
      s.table.receivers.get? name = some is ∧ i ∈ is := by
  unfold candidates RoutingTable.integrations SortedMap.getD
  rw [List.mem_flatMap]
  constructor
  · rintro ⟨name, hname, hi⟩
    cases his : s.table.receivers.get? name with
    | none => simp [his] at hi
    | some is => exact ⟨name, hname, is, his, by simpa [his] using hi⟩
  · rintro ⟨name, hname, is, his, hi⟩
    exact ⟨name, hname, by simpa [his] using hi⟩

/-- An alert is only tried with its integrations. -/
theorem mem_candidates_of_mem_attempts {a : Alert} (h : e ∈ attempts s silences now a) :
    e.alert = a ∧ e.integration ∈ candidates s a.labels := by
  unfold attempts at h
  split at h
  · cases h
  · obtain ⟨i, hi, rfl⟩ := List.mem_map.mp h
    exact ⟨rfl, hi⟩

/-- An alert is tried with its integrations if nothing mutes it. -/
theorem mem_attempts_iff {a : Alert}
    (htells : SilenceStore.Tells silences a.labels now) :
    e ∈ attempts s silences now a ↔ e.alert = a ∧ e.integration ∈ candidates s a.labels ∧
      ∀ r ∈ silences.store.toList, r.mutes a.labels now = false := by
  unfold attempts
  rw [htells.ask_eq, ← Silence.muters_eq_nil_iff]
  cases Silence.muters silences.store.toList a.labels now with
  | nil =>
      obtain ⟨b, i⟩ := e
      simp [eq_comm, and_comm]
  | cons id ids => simp

/-- Alerts that a stream gives for sure. -/
theorem mem_readable_iff {alerts : List Alert} {stream : List (Except AlertError Alert)}
    (hstream : stream.Perm (alerts.map .ok)) {a : Alert} : a ∈ readable stream ↔ a ∈ alerts := by
  obtain ⟨rest, heq, hrest⟩ := exists_readable_append stream
  have hrest : rest = [] := by
    cases rest with
    | nil => rfl
    | cons item rest =>
        have hitem : item ∈ alerts.map .ok := by
          rw [← hstream.mem_iff, heq]
          simp
        obtain ⟨b, -, rfl⟩ := List.mem_map.mp hitem
        cases hrest
  have hmem := hstream.mem_iff (a := .ok a)
  rw [heq, hrest, List.append_nil] at hmem
  simpa using hmem

end Dispatcher

/-- What a pass changes: the marks of the alerts, and what it has tried to send. -/
theorem Hub.pass_eq {h : Hub} {s : Snapshot} {now : Instant}
    {stream : List (Except AlertError Alert)} (hs : h.dispatcher.snapshot = some s) :
    h.pass now stream =
      let alerts := Dispatcher.readable stream
      let sending := (alerts.flatMap (Dispatcher.attempts s h.silences now)).foldl
        (Dispatcher.attempt now) (h.dispatcher.delivered, [])
      ({ h with
          marker := alerts.foldl (Dispatcher.mark h.silences now) h.marker
          dispatcher := { h.dispatcher with delivered := sending.1 } }, sending.2) := by
  simp only [Hub.pass, Dispatcher.pass, hs, Dispatcher.foldl_visit_marker,
    Dispatcher.foldl_visit_sending]

end AlertRouter
