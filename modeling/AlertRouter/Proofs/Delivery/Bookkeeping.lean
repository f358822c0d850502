import AlertRouter.Proofs.Delivery.Attempts
import AlertRouter.Proofs.Delivery.Collection

/-! # What is remembered, and for how long

The dispatcher remembers what it sent last for an alert and an integration, and the marker what
holds an alert back.  Both are written in passes.  Dropping alerts purges them by fingerprints, and
a new snapshot purges the records by integrations.

`Tidy` says that nothing is remembered about an alert that is not stored, nor about an integration
that the installed snapshot does not have.  There is one lemma for each event that says that it
keeps this, and so it holds in every run (`bookkeeping`). -/

namespace AlertRouter

namespace Dispatcher

variable {s : Snapshot} {silences : Remote SilenceStore} {now : Instant}

/-! ### What a pass writes -/

/-- A record that is there after some attempts was there before or is that of an attempt. -/
theorem mem_keys_foldl_attempt {tried : List Delivery} {x : Sending} {key : DeliveryKey}
    (h : key ∈ (tried.foldl (attempt now) x).1.keys) :
    key ∈ x.1.keys ∨ ∃ d ∈ tried, d.key = key := by
  induction tried generalizing x with
  | nil => exact .inl h
  | cons e tried ih =>
      rcases ih h with hkey | ⟨d, hd, rfl⟩
      · rcases attempt_cases now x e with ⟨-, heq⟩ | ⟨-, -, heq⟩
        · rw [heq] at hkey
          exact .inl hkey
        · rw [heq, SortedMap.mem_keys_insert] at hkey
          rcases hkey with rfl | hkey
          · exact .inr ⟨e, by simp, rfl⟩
          · exact .inl hkey
      · exact .inr ⟨d, List.mem_cons_of_mem _ hd, rfl⟩

/-- An alert that is marked after some were looked at was marked before or is one of them. -/
theorem mem_keys_foldl_mark {seen : List Alert} {m : Marker} {f : Fingerprint}
    (h : f ∈ (seen.foldl (mark silences now) m).statuses.keys) :
    f ∈ m.statuses.keys ∨ ∃ a ∈ seen, a.fingerprint = f := by
  induction seen generalizing m with
  | nil => exact .inl h
  | cons a seen ih =>
      rcases ih h with hf | ⟨b, hb, rfl⟩
      · unfold mark at hf
        split at hf
        · rcases SortedMap.mem_keys_insert.mp hf with rfl | hf
          · exact .inr ⟨a, by simp, rfl⟩
          · exact .inl hf
        · exact .inl hf
      · exact .inr ⟨b, List.mem_cons_of_mem _ hb, rfl⟩

/-- What is tried with an alert is tried with an integration of the snapshot. -/
theorem of_mem_attempts {a : Alert} {d : Delivery} (h : d ∈ attempts s silences now a) :
    d.alert = a ∧ d.integration.text ∈ integrationNames s := by
  have hcandidate : d ∈ (candidates s a.labels).map (⟨a, ·⟩) := by
    unfold attempts at h
    split at h
    · cases h
    · exact h
  obtain ⟨i, hi, rfl⟩ := List.mem_map.mp hcandidate
  obtain ⟨name, -, is, his, hi⟩ := mem_candidates_iff.mp hi
  refine ⟨rfl, List.mem_map_of_mem (List.mem_flatten.mpr ⟨is, ?_, hi⟩)⟩
  exact SortedMap.mem_values_iff.mpr ⟨name, his⟩

end Dispatcher

namespace Hub

variable {h : Hub} {f : Fingerprint}

/-- The fingerprints of the stored alerts. -/
def stored (h : Hub) : List Fingerprint := h.alerts.store.alerts.keys

theorem mem_stored_iff : f ∈ h.stored ↔ ∃ a, h.alerts.store.get? f = some a :=
  SortedMap.mem_keys_iff_get?

/-- Nothing is remembered about alerts and integrations that are gone. -/
structure Tidy (h : Hub) : Prop where
  filed : h.Filed
  delivered_stored : ∀ key ∈ h.dispatcher.delivered.keys, key.alert ∈ h.stored
  delivered_live : ∀ key ∈ h.dispatcher.delivered.keys, ∃ s, h.dispatcher.snapshot = some s ∧
    key.integration ∈ Dispatcher.integrationNames s
  marked_stored : ∀ f ∈ h.marker.statuses.keys, f ∈ h.stored

/-! ### Each event -/

theorem Tidy.idle (nanos : Nat) : Tidy (idle nanos) where
  filed := fun _ _ => nofun
  delivered_stored := fun _ => nofun
  delivered_live := fun _ => nofun
  marked_stored := fun _ => nofun

/-- Putting alerts drops none. -/
theorem mem_stored_put (alerts : List Alert) (hf : f ∈ h.stored) : f ∈ (h.put alerts).stored := by
  unfold stored put AlertStore.put at *
  simp only
  generalize h.alerts.store = store at hf
  induction alerts generalizing store with
  | nil => exact hf
  | cons a alerts ih =>
      rw [List.foldl_cons]
      exact ih _ (SortedMap.mem_keys_insert.mpr (.inr hf))

theorem Tidy.put (htidy : h.Tidy) (alerts : List Alert) : (h.put alerts).Tidy where
  filed := filed_put alerts htidy.filed
  delivered_stored := fun key hkey => mem_stored_put alerts (htidy.delivered_stored key hkey)
  delivered_live := htidy.delivered_live
  marked_stored := fun f hf => mem_stored_put alerts (htidy.marked_stored f hf)

theorem Tidy.silence (htidy : h.Tidy) (silences : Remote SilenceStore) :
    Tidy { h with silences } where
  filed := htidy.filed
  delivered_stored := htidy.delivered_stored
  delivered_live := htidy.delivered_live
  marked_stored := htidy.marked_stored

/-- A pass writes only about alerts that it comes upon, and these are stored. -/
theorem Tidy.pass (htidy : h.Tidy) (now : Instant) {stream : List (Except AlertError Alert)}
    (hstream : stream.Perm (AlertStore.stream h.alerts)) : (h.pass now stream).1.Tidy := by
  cases hs : h.dispatcher.snapshot with
  | none =>
      have hpass : (h.pass now stream).1 = h := by simp only [Hub.pass, Dispatcher.pass, hs]
      rwa [hpass]
  | some s =>
      have hread : ∀ a ∈ Dispatcher.readable stream, a.fingerprint ∈ h.stored := fun a ha =>
        mem_stored_iff.mpr ⟨a, get?_of_mem_readable htidy.filed hstream ha⟩
      have htried : ∀ d ∈ (Dispatcher.readable stream).flatMap
          (Dispatcher.attempts s h.silences now), d.key.alert ∈ h.stored ∧
            d.key.integration ∈ Dispatcher.integrationNames s := by
        intro d hd
        obtain ⟨a, ha, hd⟩ := List.mem_flatMap.mp hd
        obtain ⟨rfl, hintegration⟩ := Dispatcher.of_mem_attempts hd
        exact ⟨hread _ ha, hintegration⟩
      rw [pass_eq hs]
      refine ⟨htidy.filed, ?_, ?_, ?_⟩
      · intro key hkey
        rcases Dispatcher.mem_keys_foldl_attempt hkey with hkey | ⟨d, hd, rfl⟩
        · exact htidy.delivered_stored key hkey
        · exact (htried d hd).1
      · intro key hkey
        rcases Dispatcher.mem_keys_foldl_attempt hkey with hkey | ⟨d, hd, rfl⟩
        · exact htidy.delivered_live key hkey
        · exact ⟨s, hs, (htried d hd).2⟩
      · intro f hf
        rcases Dispatcher.mem_keys_foldl_mark hf with hf | ⟨a, ha, rfl⟩
        · exact htidy.marked_stored f hf
        · exact hread a ha

/-- The alerts that are stored after some were dropped. -/
theorem mem_stored_collect_iff {now : Instant} :
    f ∈ (h.collect now).1.stored ↔ f ∈ h.stored ∧ f ∉ (h.collect now).2 := by
  change f ∈ (h.alerts.store.alerts.filter _).keys ↔
    f ∈ h.alerts.store.alerts.keys ∧ f ∉ (h.alerts.store.alerts.filter _).keys
  rw [SortedMap.mem_keys_filter, SortedMap.mem_keys_filter, SortedMap.mem_keys_iff_get?]
  cases h.alerts.store.alerts.get? f with
  | none => simp
  | some a => simp

theorem mem_keys_foldl_forget {gone : List Fingerprint} {m : Marker} :
    f ∈ (gone.foldl Marker.forget m).statuses.keys ↔ f ∈ m.statuses.keys ∧ f ∉ gone := by
  simp only [SortedMap.mem_keys_iff_get?, Marker.get?_foldl_forget, exists_and_right]

/-- Alerts are dropped together with all that is remembered about them. -/
theorem Tidy.collect (htidy : h.Tidy) (now : Instant) : (h.collect now).1.Tidy := by
  have hdelivered : ∀ key ∈ (h.collect now).1.dispatcher.delivered.keys,
      key ∈ h.dispatcher.delivered.keys ∧ key.alert ∉ (h.collect now).2 := by
    intro key hkey
    obtain ⟨r, hr⟩ := SortedMap.mem_keys_iff_get?.mp hkey
    obtain ⟨hr, hkept⟩ := Dispatcher.get?_forget.mp hr
    exact ⟨SortedMap.mem_keys_iff_get?.mpr ⟨r, hr⟩, hkept⟩
  refine ⟨htidy.filed.collect now, ?_, ?_, ?_⟩
  · intro key hkey
    obtain ⟨hkey, hkept⟩ := hdelivered key hkey
    exact mem_stored_collect_iff.mpr ⟨htidy.delivered_stored key hkey, hkept⟩
  · intro key hkey
    exact htidy.delivered_live key (hdelivered key hkey).1
  · intro f hf
    obtain ⟨hf, hkept⟩ := mem_keys_foldl_forget.mp hf
    exact mem_stored_collect_iff.mpr ⟨htidy.marked_stored f hf, hkept⟩

/-- A snapshot is installed together with what was sent to its own integrations. -/
theorem Tidy.install (htidy : h.Tidy) (s : Snapshot) : (h.install s).Tidy := by
  have hdelivered : ∀ key ∈ (h.install s).dispatcher.delivered.keys,
      key ∈ h.dispatcher.delivered.keys ∧ key.integration ∈ Dispatcher.integrationNames s := by
    intro key hkey
    obtain ⟨d, hd, hkept⟩ := SortedMap.mem_keys_filter.mp hkey
    exact ⟨SortedMap.mem_keys_iff_get?.mpr ⟨d, hd⟩, List.contains_iff_mem.mp hkept⟩
  refine ⟨htidy.filed, ?_, ?_, htidy.marked_stored⟩
  · intro key hkey
    exact htidy.delivered_stored key (hdelivered key hkey).1
  · intro key hkey
    exact ⟨s, rfl, (hdelivered key hkey).2⟩

/-! ### Runs -/

variable {nanos : Nat} {events : List Event} {log : Log}

theorem Run.tidy (hrun : Run nanos events h log) : h.Tidy := by
  induction hrun with
  | start => exact .idle nanos
  | put _ alerts ih => exact ih.put alerts
  | silence _ silences ih => exact ih.silence silences
  | dispatch _ now hstream ih => exact ih.pass now hstream
  | collect _ now ih => exact ih.collect now
  | install _ s ih => exact ih.install s

/-- **No bookkeeping outlives its alert or its integration.**  In every run, what is on record or
marked is about stored alerts, and what is on record is about integrations that the installed
snapshot has. -/
theorem bookkeeping (hrun : Run nanos events h log) :
    (∀ key ∈ h.dispatcher.delivered.keys, key.alert ∈ h.stored) ∧
    (∀ f ∈ h.marker.statuses.keys, f ∈ h.stored) ∧
    ∀ key ∈ h.dispatcher.delivered.keys, ∃ s, h.dispatcher.snapshot = some s ∧
      ∃ name is, s.table.receivers.get? name = some is ∧ ∃ i ∈ is, i.text = key.integration := by
  have htidy := hrun.tidy
  refine ⟨htidy.delivered_stored, htidy.marked_stored, ?_⟩
  intro key hkey
  obtain ⟨s, hs, hname⟩ := htidy.delivered_live key hkey
  obtain ⟨i, hi, htext⟩ := List.mem_map.mp hname
  obtain ⟨is, his, hi⟩ := List.mem_flatten.mp hi
  obtain ⟨name, hget⟩ := SortedMap.mem_values_iff.mp his
  exact ⟨s, hs, name, is, hget, i, hi, htext⟩

/-- Two alerts are sent, then the one that has ended half a second ago is dropped, and its record
with it. -/
theorem bookkeeping_of_collect : ∃ s a b h log,
    Run 500000000 [.install s, .put [a, b], .dispatch default, .collect ⟨1, 500000000⟩] h log ∧
    log.length = 2 ∧ h.dispatcher.delivered.keys = [⟨b.fingerprint, "a/webhook[0]"⟩] ∧
    a.fingerprint ∉ h.stored ∧ b.fingerprint ∈ h.stored := by
  let s := Snapshot.ofIntegration ⟨"a", .webhook, 0, true, ⟨.webhook, "b", none⟩⟩
  let a : Alert := { (default : Alert) with endsAt := ⟨1, 0⟩ }
  let b : Alert := { a with labels := .ofList [("job", "b")], endsAt := ⟨2, 0⟩ }
  have h₀ : Run 500000000 [] (idle 500000000) [] := .start
  have h₁ := (((h₀.install s).put [a, b]).dispatch default (.refl _)).collect ⟨1, 500000000⟩
  refine ⟨s, a, b, _, _, h₁, by decide +kernel, by decide +kernel, by decide +kernel, ?_⟩
  exact (bookkeeping h₁).1 ⟨b.fingerprint, "a/webhook[0]"⟩ (by decide +kernel)

end Hub

end AlertRouter
