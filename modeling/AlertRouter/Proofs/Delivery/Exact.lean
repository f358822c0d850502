import AlertRouter.Proofs.Delivery.Attempts
import AlertRouter.Proofs.Routing.Names
import Mathlib.Data.Set.Card

/-! # What one pass does

A stored alert that nothing mutes is to be sent to the integrations of the receivers that it is
routed to, as far as they want it (`Hub.Eligible`).  Of these deliveries those are due that differ
from what was sent last (`Hub.Due`).

`Hub.Passed` says of a pass that it makes exactly the deliveries that are due, each once, puts them
on record, and marks every stored alert with what mutes it.  This leaves no choice
(`Passed.unique`), and there is nothing left for a second pass to do (`Passed.again`).  A pass over
a table that was built from a configuration does so, in whatever order it comes upon the alerts
(`pass_exact`). -/

namespace AlertRouter

/-- Two routes lead to the receiver "a", who has a webhook. -/
def Config.twoRoutes : Config where
  global := default
  route := .node (.ofReceiver "a")
    [.node { RouteSettings.ofReceiver "a" with continues := true } [], .node (.ofReceiver "a") []]
  receivers := [{ Receiver.named "a" with
    webhooks := [⟨true, none, { (default : Url) with scheme := "http" }, 0⟩] }]
  templates := []

/-- A silence for all alerts of the job "b". -/
def SilenceRecord.ofJob : SilenceRecord where
  id := "S1"
  matchers := [⟨"job", "b", .equal⟩]
  startsAt := default
  endsAt := ⟨1, 0⟩
  updatedAt := default
  createdBy := ""
  comment := ""

namespace Hub

variable {h h' h₁ h₂ : Hub} {s : Snapshot} {now : Instant} {sent sent₁ sent₂ : List Delivery}
  {x y : Delivery}

/-- The alert is stored and nothing mutes it, the integration belongs to a receiver that the alert
is routed to, and it wants the alert as it is at `now`. -/
structure Eligible (h : Hub) (s : Snapshot) (now : Instant) (x : Delivery) : Prop where
  stored : h.alerts.store.get? x.alert.fingerprint = some x.alert
  audible : ∀ r ∈ h.silences.store.toList, r.mutes x.alert.labels now = false
  routed : ∃ name ∈ s.table.receiversFor x.alert.labels, ∃ is,
    s.table.receivers.get? name = some is ∧ x.integration ∈ is
  wanted : x.Wanted now

/-- The delivery differs from what was sent last. -/
def Due (h : Hub) (s : Snapshot) (now : Instant) (x : Delivery) : Prop :=
  h.Eligible s now x ∧ h.dispatcher.delivered.get? x.key ≠ some (x.sentAt now)

/-- What becomes of a hub in a pass at `now` with the snapshot `s`, and what is sent. -/
structure Passed (h : Hub) (s : Snapshot) (now : Instant) (h' : Hub) (sent : List Delivery) :
    Prop where
  once : (sent.map Delivery.key).Nodup
  mem_sent_iff : ∀ x, x ∈ sent ↔ h.Due s now x
  recorded : ∀ x, h.Eligible s now x → h'.dispatcher.delivered.get? x.key = some (x.sentAt now)
  kept : ∀ key, (∀ x, h.Due s now x → x.key ≠ key) →
    h'.dispatcher.delivered.get? key = h.dispatcher.delivered.get? key
  marked : ∀ f a, h.alerts.store.get? f = some a → h'.marker.statuses.get? f =
    some (.ofReasons (Silence.muters h.silences.store.toList a.labels now)
      (h.marker.status f).inhibitedBy)
  unmarked : ∀ f, h.alerts.store.get? f = none →
    h'.marker.statuses.get? f = h.marker.statuses.get? f
  frame : h' = { h with
    marker := h'.marker
    dispatcher := { h.dispatcher with delivered := h'.dispatcher.delivered } }

/-! ### What follows -/

/-- What a pass does is determined. -/
theorem Passed.unique (hp₁ : h.Passed s now h₁ sent₁) (hp₂ : h.Passed s now h₂ sent₂) :
    h₁ = h₂ ∧ sent₁.Perm sent₂ := by
  have hdelivered : h₁.dispatcher.delivered = h₂.dispatcher.delivered := by
    apply SortedMap.ext_get?
    intro key
    by_cases hdue : ∃ x, h.Due s now x ∧ x.key = key
    · obtain ⟨x, hx, rfl⟩ := hdue
      rw [hp₁.recorded x hx.1, hp₂.recorded x hx.1]
    · have hother : ∀ x, h.Due s now x → x.key ≠ key := fun x hx heq => hdue ⟨x, hx, heq⟩
      rw [hp₁.kept key hother, hp₂.kept key hother]
  have hmarker : h₁.marker.statuses = h₂.marker.statuses := by
    apply SortedMap.ext_get?
    intro f
    cases hstored : h.alerts.store.get? f with
    | none => rw [hp₁.unmarked f hstored, hp₂.unmarked f hstored]
    | some a => rw [hp₁.marked f a hstored, hp₂.marked f a hstored]
  refine ⟨?_, ?_⟩
  · have hmarkers : h₁.marker = h₂.marker := congrArg Marker.mk hmarker
    rw [hp₁.frame, hp₂.frame, hdelivered, hmarkers]
  · refine (List.perm_ext_iff_of_nodup (.of_map _ hp₁.once) (.of_map _ hp₂.once)).mpr ?_
    intro x
    rw [hp₁.mem_sent_iff, hp₂.mem_sent_iff]

theorem Passed.eligible_iff (hp : h.Passed s now h' sent) :
    h'.Eligible s now x ↔ h.Eligible s now x := by
  have halerts : h'.alerts = h.alerts := by rw [hp.frame]
  have hsilences : h'.silences = h.silences := by rw [hp.frame]
  constructor
  · rintro ⟨hstored, haudible, hrouted, hwanted⟩
    exact ⟨halerts ▸ hstored, hsilences ▸ haudible, hrouted, hwanted⟩
  · rintro ⟨hstored, haudible, hrouted, hwanted⟩
    exact ⟨halerts ▸ hstored, hsilences ▸ haudible, hrouted, hwanted⟩

theorem Passed.inhibitedBy (hp : h.Passed s now h' sent) (f : Fingerprint) :
    (h'.marker.status f).inhibitedBy = (h.marker.status f).inhibitedBy := by
  unfold Marker.status SortedMap.getD
  cases hstored : h.alerts.store.get? f with
  | none => rw [hp.unmarked f hstored]
  | some a =>
      rw [hp.marked f a hstored]
      rfl

/-- After a pass nothing is left to do at the same time. -/
theorem Passed.again (hp : h.Passed s now h' sent) : h'.Passed s now h' [] where
  once := .nil
  mem_sent_iff := by
    intro x
    simp only [List.not_mem_nil, false_iff]
    rintro ⟨heligible, hdiffers⟩
    exact hdiffers (hp.recorded x (hp.eligible_iff.mp heligible))
  recorded := fun x hx => hp.recorded x (hp.eligible_iff.mp hx)
  kept := fun _ _ => rfl
  marked := by
    intro f a hstored
    have halerts : h'.alerts = h.alerts := by rw [hp.frame]
    have hsilences : h'.silences = h.silences := by rw [hp.frame]
    rw [halerts] at hstored
    rw [hp.inhibitedBy, hsilences]
    exact hp.marked f a hstored
  unmarked := fun _ _ => rfl
  frame := rfl

/-- The number of deliveries that are made is that of the deliveries that are due. -/
theorem Passed.length_sent (hp : h.Passed s now h' sent) :
    sent.length = {x | h.Due s now x}.ncard := by
  have hset : {x | h.Due s now x} = ↑sent.toFinset := by
    ext x
    simp [hp.mem_sent_iff]
  rw [hset, Set.ncard_coe_finset, List.toFinset_card_of_nodup (.of_map _ hp.once)]

/-! ### Passes over a store -/

variable {c : Config} {registry : Registry} {link : Option Url}
  {stream : List (Except AlertError Alert)}

/-- A pass comes upon the alerts that are stored. -/
theorem mem_readable_iff (hup : h.alerts.outage = none) (hfiled : h.Filed)
    (hstream : stream.Perm (AlertStore.stream h.alerts)) {a : Alert} :
    a ∈ Dispatcher.readable stream ↔ h.alerts.store.get? a.fingerprint = some a := by
  constructor
  · exact get?_of_mem_readable hfiled hstream
  · intro ha
    unfold AlertStore.stream at hstream
    rw [hup] at hstream
    rw [Dispatcher.mem_readable_iff hstream, AlertStore.toList, SortedMap.mem_values_iff]
    exact ⟨a.fingerprint, ha⟩

/-- What is tried, if it is wanted, is what can be sent. -/
theorem mem_attempts_iff {alerts : List Alert}
    (halerts : ∀ a, a ∈ alerts ↔ h.alerts.store.get? a.fingerprint = some a)
    (htells : ∀ a ∈ alerts, SilenceStore.Tells h.silences a.labels now) :
    x ∈ alerts.flatMap (Dispatcher.attempts s h.silences now) ∧ x.Wanted now ↔
      h.Eligible s now x := by
  rw [List.mem_flatMap]
  constructor
  · rintro ⟨⟨a, ha, hx⟩, hwanted⟩
    obtain ⟨rfl, hcandidate, haudible⟩ := (Dispatcher.mem_attempts_iff (htells a ha)).mp hx
    exact ⟨(halerts _).mp ha, haudible, Dispatcher.mem_candidates_iff.mp hcandidate, hwanted⟩
  · rintro ⟨hstored, haudible, hrouted, hwanted⟩
    have ha := (halerts _).mpr hstored
    exact ⟨⟨x.alert, ha, (Dispatcher.mem_attempts_iff (htells _ ha)).mpr
      ⟨rfl, Dispatcher.mem_candidates_iff.mpr hrouted, haudible⟩⟩, hwanted⟩

/-- The keys tell apart what is tried. -/
theorem eq_of_key_eq {alerts : List Alert} (hnamed : s.table.Named)
    (halerts : ∀ a, a ∈ alerts ↔ h.alerts.store.get? a.fingerprint = some a)
    (hx : x ∈ alerts.flatMap (Dispatcher.attempts s h.silences now))
    (hy : y ∈ alerts.flatMap (Dispatcher.attempts s h.silences now)) (hkey : x.key = y.key) :
    x = y := by
  obtain ⟨a, ha, hx⟩ := List.mem_flatMap.mp hx
  obtain ⟨b, hb, hy⟩ := List.mem_flatMap.mp hy
  obtain ⟨rfl, hcandidate⟩ := Dispatcher.mem_candidates_of_mem_attempts hx
  obtain ⟨rfl, hcandidate'⟩ := Dispatcher.mem_candidates_of_mem_attempts hy
  obtain ⟨name, -, is, his, hi⟩ := Dispatcher.mem_candidates_iff.mp hcandidate
  obtain ⟨name', -, is', his', hi'⟩ := Dispatcher.mem_candidates_iff.mp hcandidate'
  obtain ⟨hfingerprint, htext⟩ := DeliveryKey.mk.inj hkey
  have hstored := (halerts _).mp ha
  rw [hfingerprint, (halerts _).mp hb] at hstored
  have halert := Option.some.inj hstored
  have hintegration := hnamed.eq_of_text_eq his his' hi hi' htext
  obtain ⟨a, i⟩ := x
  obtain ⟨b, j⟩ := y
  cases halert
  cases hintegration
  rfl

/-- What comes of the deliveries that a pass tries, whether or not the silences can be asked. -/
theorem sent_pass (hs : h.dispatcher.snapshot = some s) (hnamed : s.table.Named)
    (hup : h.alerts.outage = none) (hfiled : h.Filed)
    (hstream : stream.Perm (AlertStore.stream h.alerts)) :
    Dispatcher.Sent now h.dispatcher.delivered
      ((Dispatcher.readable stream).flatMap (Dispatcher.attempts s h.silences now))
      ((h.pass now stream).1.dispatcher.delivered, (h.pass now stream).2) := by
  have halerts : ∀ a, a ∈ Dispatcher.readable stream ↔
      h.alerts.store.get? a.fingerprint = some a := fun _ => mem_readable_iff hup hfiled hstream
  rw [pass_eq hs]
  exact Dispatcher.sent_foldl_attempt fun x hx y hy =>
    eq_of_key_eq (s := s) hnamed halerts hx hy

theorem passed_pass (hs : h.dispatcher.snapshot = some s) (hnamed : s.table.Named)
    (hup : h.alerts.outage = none) (hfiled : h.Filed)
    (htells : ∀ f a, h.alerts.store.get? f = some a → SilenceStore.Tells h.silences a.labels now)
    (hstream : stream.Perm (AlertStore.stream h.alerts)) :
    h.Passed s now (h.pass now stream).1 (h.pass now stream).2 := by
  have halerts : ∀ a, a ∈ Dispatcher.readable stream ↔
      h.alerts.store.get? a.fingerprint = some a := fun _ => mem_readable_iff hup hfiled hstream
  have htells : ∀ a ∈ Dispatcher.readable stream, SilenceStore.Tells h.silences a.labels now :=
    fun a ha => htells _ a ((halerts a).mp ha)
  have hsent : Dispatcher.Sent now h.dispatcher.delivered _ _ :=
    sent_pass hs hnamed hup hfiled hstream
  have hmarked : Dispatcher.Marked h.silences.store.toList now h.marker _ _ :=
    Dispatcher.marked_foldl_mark htells fun a ha b hb heq => by
      have hstored := (halerts a).mp ha
      rw [heq, (halerts b).mp hb] at hstored
      exact (Option.some.inj hstored).symm
  have heligible (x : Delivery) := mem_attempts_iff (s := s) (x := x) halerts htells
  rw [pass_eq hs] at hsent ⊢
  refine ⟨hsent.once, ?_, ?_, ?_, ?_, ?_, rfl⟩
  · intro x
    rw [hsent.mem_iff, ← and_assoc, heligible]
    rfl
  · intro x hx
    obtain ⟨htried, hwanted⟩ := (heligible x).mpr hx
    exact hsent.recorded x htried hwanted
  · -- A key that was tried without being due is on record as it would be written.
    intro key hother
    by_cases htried : ∃ x, h.Eligible s now x ∧ x.key = key
    · obtain ⟨x, hx, rfl⟩ := htried
      have hrecord : h.dispatcher.delivered.get? x.key = some (x.sentAt now) := by
        by_contra hdiffers
        exact hother x ⟨hx, hdiffers⟩ rfl
      obtain ⟨htried, hwanted⟩ := (heligible x).mpr hx
      rw [hrecord]
      exact hsent.recorded x htried hwanted
    · refine hsent.kept key ?_
      intro x hx hwanted heq
      exact htried ⟨x, (heligible x).mp ⟨hx, hwanted⟩, heq⟩
  · intro f a hstored
    obtain rfl := hfiled f a hstored
    exact hmarked.marked a ((halerts a).mpr hstored)
  · intro f hnone
    refine hmarked.unmarked f ?_
    rintro a ha rfl
    rw [(halerts a).mp ha] at hnone
    cases hnone

/-- **A pass makes exactly the deliveries that are due**, puts them on record and marks the stored
alerts.  The order in which it comes upon them makes no difference, a receiver that an alert reaches
by several routes is notified once, and a second pass at the same time does nothing. -/
theorem pass_exact (hs : h.dispatcher.snapshot = some s)
    (htable : RoutingTable.ofConfig c registry link = .ok s.table)
    (hup : h.alerts.outage = none) (hfiled : h.Filed)
    (htells : ∀ f a, h.alerts.store.get? f = some a → SilenceStore.Tells h.silences a.labels now)
    (hstream : stream.Perm (AlertStore.stream h.alerts)) :
    h.Passed s now (h.pass now stream).1 (h.pass now stream).2 ∧
    (h.pass now stream).2.length = {x | h.Due s now x}.ncard ∧
    (∀ stream', stream'.Perm (AlertStore.stream h.alerts) →
      (h.pass now stream').1 = (h.pass now stream).1 ∧
      (h.pass now stream').2.Perm (h.pass now stream).2) ∧
    ∀ stream', stream'.Perm (AlertStore.stream (h.pass now stream).1.alerts) →
      (h.pass now stream).1.pass now stream' = ((h.pass now stream).1, []) := by
  have hnamed := RoutingTable.named_of_ofConfig htable
  have hp := passed_pass hs hnamed hup hfiled htells hstream
  refine ⟨hp, hp.length_sent, ?_, ?_⟩
  · intro stream' hstream'
    exact (passed_pass hs hnamed hup hfiled htells hstream').unique hp
  · intro stream' hstream'
    have hp' : (h.pass now stream).1.Passed s now ((h.pass now stream).1.pass now stream').1
        ((h.pass now stream).1.pass now stream').2 := by
      refine passed_pass ?_ hnamed ?_ ?_ ?_ hstream'
      · rw [hp.frame]
        exact hs
      · rw [hp.frame]
        exact hup
      · unfold Filed
        rw [hp.frame]
        exact hfiled
      · rw [hp.frame]
        exact htells
    obtain ⟨hhub, hsent⟩ := hp'.unique hp.again
    exact Prod.ext hhub hsent.eq_nil

/-- Of two stored alerts one is silenced; the other reaches its receiver by two routes. -/
theorem pass_exact_two_routes : ∃ (h : Hub) (s : Snapshot) (a b : Alert),
    h.dispatcher.snapshot = some s ∧
    RoutingTable.ofConfig .twoRoutes .standard none = .ok s.table ∧
    h.alerts.outage = none ∧ h.Filed ∧
    (∀ f a, h.alerts.store.get? f = some a → SilenceStore.Tells h.silences a.labels default) ∧
    s.table.receiversFor a.labels = ["a", "a"] ∧
    (h.dispatch default).2.map Delivery.key = [⟨a.fingerprint, "a/webhook[0]"⟩] ∧
    ((h.dispatch default).1.marker.status b.fingerprint).silencedBy = ["S1"] ∧
    (h.dispatch default).1.dispatch default = ((h.dispatch default).1, []) := by
  let a : Alert := { (default : Alert) with endsAt := ⟨1, 0⟩ }
  let b : Alert := { a with labels := .ofList [("job", "b")] }
  obtain ⟨table, htable⟩ : ∃ table, RoutingTable.ofConfig .twoRoutes .standard none = .ok table :=
    ⟨_, rfl⟩
  let s : Snapshot := ⟨1, .twoRoutes, table⟩
  let h : Hub := { ((Hub.empty none).put [a, b]).install s with
    silences := .up ⟨.ofList [("S1", .ofJob)], 1⟩ }
  have hfiled : h.Filed := filed_put [a, b] fun _ _ => nofun
  have htells : ∀ f a, h.alerts.store.get? f = some a →
      SilenceStore.Tells h.silences a.labels default := fun _ _ _ => ⟨_, rfl⟩
  refine ⟨h, s, a, b, rfl, htable, rfl, hfiled, htells, ?_, ?_, ?_,
    (pass_exact rfl htable rfl hfiled htells (.refl _)).2.2.2 _ (.refl _)⟩
  · cases htable
    rfl
  · cases htable
    decide +kernel
  · cases htable
    decide +kernel

end Hub

end AlertRouter
