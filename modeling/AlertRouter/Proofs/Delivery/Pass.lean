import AlertRouter.Delivery.Dispatcher

/-! # Passes alert by alert

A pass folds two loops, one over the alerts and one over the integrations of each.
`foldl_visit_invariant` reduces what holds at its end to a single `Dispatcher.send`, of which
`send_cases` says all that can happen.  `dispatch_eq_foldl_visit` takes a pass apart into visits of
single alerts.  `visit_eq` and its two consequences for passes make one loop of the two: what is
marked depends on the silences alone, and what is sent on the list of all attempts. -/

namespace AlertRouter

namespace Dispatcher

variable {s : Snapshot} {silences : Remote SilenceStore} {now : Instant} {a : Alert}

/-! ### The alerts of a stream -/

theorem exists_readable_append (stream : List (Except AlertError Alert)) :
    ∃ rest, stream = (readable stream).map .ok ++ rest ∧ readable rest = [] := by
  induction stream with
  | nil => exact ⟨[], rfl, rfl⟩
  | cons item stream ih =>
      cases item with
      | error e => exact ⟨.error e :: stream, rfl, rfl⟩
      | ok a =>
          obtain ⟨rest, hstream, hrest⟩ := ih
          refine ⟨rest, ?_, hrest⟩
          rw [readable, List.map_cons, List.cons_append, ← hstream]

theorem ok_mem_of_mem_readable {stream : List (Except AlertError Alert)}
    (h : a ∈ readable stream) : .ok a ∈ stream := by
  obtain ⟨rest, hstream, -⟩ := exists_readable_append stream
  rw [hstream]
  exact List.mem_append_left _ (List.mem_map_of_mem h)

/-! ### One integration -/

/-- An integration is passed over, or it is sent an alert that differs from what it was sent last,
and this is remembered. -/
theorem send_cases (now : Instant) (a : Alert) (x : Sending) (i : Integration) :
    send now a x i = x ∨
    (x.1.get? ⟨a.fingerprint, i.text⟩ ≠ some ⟨a.updatedAt, a.resolvedAt now⟩ ∧
      send now a x i = (x.1.insert ⟨a.fingerprint, i.text⟩ ⟨a.updatedAt, a.resolvedAt now⟩,
        x.2 ++ [⟨a, i⟩])) := by
  unfold send
  simp only
  split
  · exact .inl rfl
  · next h =>
      refine .inr ⟨fun heq => h ?_, rfl⟩
      rw [heq]
      simp

/-- What every single sending keeps holds at the end of a pass. -/
theorem foldl_visit_invariant {P : Sending → Prop} {alerts : List Alert} {p : Pass}
    (hstart : P p.sending) (hsend : ∀ a ∈ alerts, ∀ i x, P x → P (send now a x i)) :
    P (alerts.foldl (visit s silences now) p).sending := by
  induction alerts generalizing p with
  | nil => exact hstart
  | cons a alerts ih =>
      have hdeliver (is : List Integration) (x : Sending) (hx : P x) :
          P (is.foldl (send now a) x) := by
        induction is generalizing x with
        | nil => exact hx
        | cons i is ih => exact ih _ (hsend a (by simp) i x hx)
      rw [List.foldl_cons]
      refine ih ?_ fun b hb => hsend b (List.mem_cons_of_mem _ hb)
      unfold visit
      simp only
      split
      · exact hdeliver _ _ hstart
      · exact hstart
      · exact hdeliver _ _ hstart

/-! ### One alert -/

/-- What is remembered does not depend on the deliveries made before. -/
theorem foldl_send_fst {d : SortedMap DeliveryKey Delivered} {is : List Integration}
    {l l' : List Delivery} :
    (is.foldl (send now a) (d, l)).1 = (is.foldl (send now a) (d, l')).1 := by
  induction is generalizing d l l' with
  | nil => rfl
  | cons i is ih =>
      rw [List.foldl_cons, List.foldl_cons]
      unfold send
      simp only
      split
      · exact ih
      · exact ih

theorem visit_deliveries (marker : Marker) (d : SortedMap DeliveryKey Delivered)
    (l l' : List Delivery) :
    (visit s silences now ⟨marker, d, l⟩ a).marker =
        (visit s silences now ⟨marker, d, l'⟩ a).marker ∧
      (visit s silences now ⟨marker, d, l⟩ a).sending.1 =
        (visit s silences now ⟨marker, d, l'⟩ a).sending.1 := by
  unfold visit
  simp only
  split
  · exact ⟨rfl, foldl_send_fst⟩
  · exact ⟨rfl, rfl⟩
  · exact ⟨rfl, foldl_send_fst⟩

/-! ### All attempts of a pass -/

/-- What is tried with an alert: to send it to its integrations, unless it is known to be muted. -/
def attempts (s : Snapshot) (silences : Remote SilenceStore) (now : Instant) (a : Alert) :
    List Delivery :=
  match silences.ask fun store => Silence.muting store.toList a.labels now with
  | .ok (_ :: _) => []
  | _ => (candidates s a.labels).map (⟨a, ·⟩)

/-- Marks an alert with what mutes it, if that can be said. -/
def mark (silences : Remote SilenceStore) (now : Instant) (m : Marker) (a : Alert) : Marker :=
  match silences.ask fun store => Silence.muting store.toList a.labels now with
  | .ok ids => m.setSilenced a.fingerprint ids
  | .error _ => m

/-- Tries one delivery. -/
def attempt (now : Instant) (x : Sending) (d : Delivery) : Sending :=
  send now d.alert x d.integration

theorem visit_eq (p : Pass) :
    visit s silences now p a = ⟨mark silences now p.marker a,
      (attempts s silences now a).foldl (attempt now) p.sending⟩ := by
  unfold visit mark attempts
  cases silences.ask fun store => Silence.muting store.toList a.labels now with
  | error e =>
      simp only [List.foldl_map]
      rfl
  | ok ids =>
      cases ids with
      | nil =>
          simp only [List.foldl_map]
          rfl
      | cons id ids => rfl

theorem foldl_visit_marker (alerts : List Alert) (p : Pass) :
    (alerts.foldl (visit s silences now) p).marker = alerts.foldl (mark silences now) p.marker := by
  induction alerts generalizing p with
  | nil => rfl
  | cons a alerts ih => rw [List.foldl_cons, List.foldl_cons, ih, visit_eq]

theorem foldl_visit_sending (alerts : List Alert) (p : Pass) :
    (alerts.foldl (visit s silences now) p).sending =
      (alerts.flatMap (attempts s silences now)).foldl (attempt now) p.sending := by
  induction alerts generalizing p with
  | nil => rfl
  | cons a alerts ih => rw [List.foldl_cons, ih, visit_eq, List.flatMap_cons, List.foldl_append]

end Dispatcher

namespace Hub

variable {s : Snapshot} {now : Instant}

/-- The dispatcher's visit of one alert. -/
def visit (s : Snapshot) (now : Instant) (h : Hub) (a : Alert) : Hub :=
  let p := Dispatcher.visit s h.silences now ⟨h.marker, h.dispatcher.delivered, []⟩ a
  { h with marker := p.marker, dispatcher := { h.dispatcher with delivered := p.sending.1 } }

theorem foldl_visit_eq {alerts : List Alert} {h : Hub} {p : Dispatcher.Pass}
    (hmarker : p.marker = h.marker) (hsending : p.sending.1 = h.dispatcher.delivered) :
    alerts.foldl (visit s now) h =
      let p := alerts.foldl (Dispatcher.visit s h.silences now) p
      { h with
        marker := p.marker
        dispatcher := { h.dispatcher with delivered := p.sending.1 } } := by
  induction alerts generalizing h p with
  | nil =>
      simp only [List.foldl_nil, hmarker, hsending]
  | cons a alerts ih =>
      obtain ⟨marker, d, l⟩ := p
      cases hmarker
      cases hsending
      obtain ⟨hmarker, hsending⟩ := Dispatcher.visit_deliveries (s := s) (a := a) h.marker
        h.dispatcher.delivered l []
      rw [List.foldl_cons, List.foldl_cons, ih (h := h.visit s now a) hmarker hsending]
      rfl

/-- **A pass visits the alerts one by one.** -/
theorem dispatch_eq_foldl_visit {h : Hub} (hs : h.dispatcher.snapshot = some s) :
    (h.dispatch now).1 =
      (Dispatcher.readable (AlertStore.stream h.alerts)).foldl (visit s now) h := by
  rw [foldl_visit_eq (p := ⟨h.marker, h.dispatcher.delivered, []⟩) rfl rfl]
  simp only [dispatch, Dispatcher.pass, hs]

end Hub

end AlertRouter
