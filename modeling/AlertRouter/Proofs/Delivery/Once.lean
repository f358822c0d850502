import AlertRouter.Proofs.Delivery.Pass
import AlertRouter.Proofs.Delivery.Record

/-! # Every update is sent once

A hub starts without alerts and with any retention.  Alerts are put, silences change, snapshots are
installed, and the dispatcher drops alerts and makes passes, in any order.  A pass may come upon the
stored alerts in any order.

If the times of the dispatcher do not go back and each update of an alert is newer than those before
it, then an integration that is in all snapshots is sent each update at most once as firing and at
most once as resolved, and in order (`sent_once`).  `Inv` carries this through a run: the store is
filed under fingerprints, and the alert and the integration in question are `Recorded`. -/

namespace AlertRouter

/-- What was sent, and when. -/
abbrev Log := List (Instant × Delivery)

namespace Delivery

def key (x : Delivery) : DeliveryKey := ⟨x.alert.fingerprint, x.integration.text⟩

/-- Which update was sent, and whether as resolved. -/
def sentAt (now : Instant) (x : Delivery) : Delivered := ⟨x.alert.updatedAt, x.alert.resolvedAt now⟩

end Delivery

/-- What was sent about one alert to one integration. -/
def Log.sentTo (key : DeliveryKey) (log : Log) : List Delivered :=
  (log.filter (·.2.key == key)).map fun e => e.2.sentAt e.1

/-- A snapshot that sends everything to one integration. -/
def Snapshot.ofIntegration (i : Integration) : Snapshot :=
  ⟨1, default, ⟨SortedMap.empty.insert i.receiver [i],
    .node ⟨[], { RouteOptions.initial with receiver := i.receiver }, false⟩ []⟩⟩

namespace Hub

/-- What happens to a hub. -/
inductive Event where
  | put (alerts : List Alert)
  | silence
  | dispatch (now : Instant)
  | collect (now : Instant)
  | install (s : Snapshot)

namespace Event

def puts : Event → List Alert
  | put alerts => alerts
  | _ => []

/-- The times at which the dispatcher does something. -/
def times : Event → List Instant
  | dispatch now | collect now => [now]
  | _ => []

def installs : Event → List Snapshot
  | install s => [s]
  | _ => []

end Event

def put (h : Hub) (alerts : List Alert) : Hub :=
  { h with alerts := { h.alerts with store := h.alerts.store.put alerts } }

/-- A pass over the alerts of a stream. -/
def pass (h : Hub) (now : Instant) (stream : List (Except AlertError Alert)) :
    Hub × List Delivery :=
  let (dispatcher, marker, deliveries) := h.dispatcher.pass h.marker h.silences now stream
  ({ h with dispatcher, marker }, deliveries)

theorem dispatch_eq_pass (h : Hub) (now : Instant) :
    h.dispatch now = h.pass now (AlertStore.stream h.alerts) := rfl

/-- What can become of an idle hub that keeps ended alerts so many nanoseconds, with all that is
sent on the way. -/
inductive Run (nanos : Nat) : List Event → Hub → Log → Prop
  | start : Run nanos [] (idle nanos) []
  | put {events : List Event} {h : Hub} {log : Log} (hrun : Run nanos events h log)
      (alerts : List Alert) : Run nanos (events ++ [.put alerts]) (h.put alerts) log
  | silence {events : List Event} {h : Hub} {log : Log} (hrun : Run nanos events h log)
      (silences : Remote SilenceStore) :
      Run nanos (events ++ [.silence]) { h with silences } log
  | dispatch {events : List Event} {h : Hub} {log : Log} (hrun : Run nanos events h log)
      (now : Instant) {stream : List (Except AlertError Alert)}
      (hstream : stream.Perm (AlertStore.stream h.alerts)) :
      Run nanos (events ++ [.dispatch now]) (h.pass now stream).1
        (log ++ (h.pass now stream).2.map (now, ·))
  | collect {events : List Event} {h : Hub} {log : Log} (hrun : Run nanos events h log)
      (now : Instant) : Run nanos (events ++ [.collect now]) (h.collect now).1 log
  | install {events : List Event} {h : Hub} {log : Log} (hrun : Run nanos events h log)
      (s : Snapshot) : Run nanos (events ++ [.install s]) (h.install s) log

variable {events : List Event} {h : Hub} {log : Log} {key : DeliveryKey}

/-- The stored alerts are filed under their fingerprints. -/
def Filed (h : Hub) : Prop := ∀ f a, h.alerts.store.get? f = some a → a.fingerprint = f

/-- What holds in a run of one alert and one integration. -/
structure Inv (key : DeliveryKey) (events : List Event) (h : Hub) (log : Log) : Prop where
  filed : h.Filed
  recorded : Recorded (events.flatMap Event.puts) (events.flatMap Event.times) key.alert
    (h.alerts.store.get? key.alert) (h.dispatcher.delivered.get? key) (log.sentTo key)

theorem sentTo_append (log log' : Log) :
    Log.sentTo key (log ++ log') = log.sentTo key ++ Log.sentTo key log' := by
  simp [Log.sentTo]

/-! ### Putting alerts -/

theorem continued_eq (old : Option Alert) (a : Alert) :
    (AlertStore.continued old a).fingerprint = a.fingerprint ∧
      (AlertStore.continued old a).updatedAt = a.updatedAt := by
  unfold AlertStore.continued
  split
  · split <;> exact ⟨rfl, rfl⟩
  · exact ⟨rfl, rfl⟩

theorem get?_insert (store : AlertStore) (a : Alert) (f : Fingerprint) :
    (store.insert a).get? f = if f = a.fingerprint
      then some (AlertStore.continued (store.get? a.fingerprint) a) else store.get? f := by
  unfold AlertStore.insert AlertStore.get?
  rw [SortedMap.get?_insert]
  by_cases hf : f = a.fingerprint
  · rw [if_pos hf, if_pos (by rw [hf]; exact Std.ReflCmp.compare_self)]
  · rw [if_neg hf, if_neg fun e => hf (Std.LawfulEqCmp.eq_of_compare e)]

theorem filed_put (alerts : List Alert) {store : AlertStore}
    (hfiled : ∀ f a, store.get? f = some a → a.fingerprint = f) :
    ∀ f a, (store.put alerts).get? f = some a → a.fingerprint = f := by
  induction alerts generalizing store with
  | nil => exact hfiled
  | cons b alerts ih =>
      refine ih ?_
      intro f a ha
      rw [get?_insert] at ha
      split at ha
      · next hf =>
          cases ha
          rw [(continued_eq _ b).1, hf]
      · exact hfiled f a ha

theorem recorded_put {puts alerts : List Alert} {times : List Instant} {store : AlertStore}
    {f : Fingerprint} {record : Option Delivered} {sent : List Delivered}
    (h : Recorded puts times f (store.get? f) record sent)
    (hnew : (puts ++ alerts).Pairwise fun a b =>
      a.fingerprint = b.fingerprint → a.updatedAt < b.updatedAt) :
    Recorded (puts ++ alerts) times f ((store.put alerts).get? f) record sent := by
  induction alerts generalizing puts store with
  | nil => simpa [AlertStore.put] using h
  | cons b alerts ih =>
      rw [List.append_cons] at hnew ⊢
      refine ih ?_ hnew
      rw [get?_insert]
      split
      · next hf =>
          refine h.put hf.symm ?_ (continued_eq _ b).2
          intro p hp hpf
          have hpair := (List.pairwise_append.mp (List.pairwise_append.mp hnew).1).2.2
          exact hpair p hp b (by simp) (hpf.trans hf)
      · exact h.mono (List.subset_append_left _ _) (List.Subset.refl _)

/-! ### Passes -/

theorem get?_of_mem_readable (hfiled : h.Filed) {stream : List (Except AlertError Alert)}
    (hstream : stream.Perm (AlertStore.stream h.alerts)) {a : Alert}
    (ha : a ∈ Dispatcher.readable stream) : h.alerts.store.get? a.fingerprint = some a := by
  have hmem := hstream.mem_iff.mp (Dispatcher.ok_mem_of_mem_readable ha)
  unfold AlertStore.stream at hmem
  cases houtage : h.alerts.outage with
  | some reason => simp [houtage] at hmem
  | none =>
      rw [houtage] at hmem
      obtain ⟨_, hmem, ⟨⟩⟩ := List.mem_map.mp hmem
      obtain ⟨f, hf⟩ := SortedMap.mem_values_iff.mp hmem
      rwa [← hfiled f a hf] at hf

theorem sentTo_concat (key : DeliveryKey) (log : Log) (now : Instant) (x : Delivery) :
    Log.sentTo key (log ++ [(now, x)]) =
      if x.key = key then log.sentTo key ++ [x.sentAt now] else log.sentTo key := by
  rw [sentTo_append]
  split
  · next hkey => simp [Log.sentTo, hkey]
  · next hkey => simp [Log.sentTo, hkey]

theorem recorded_send {puts : List Alert} {times : List Instant} {store : AlertStore}
    {now : Instant} {a : Alert} {i : Integration} {x : Dispatcher.Sending}
    (hnow : now ∈ times) (hpast : ∀ t ∈ times, t ≤ now)
    (ha : store.get? a.fingerprint = some a)
    (hx : Recorded puts times key.alert (store.get? key.alert) (x.1.get? key)
      (Log.sentTo key (log ++ x.2.map (now, ·)))) :
    Recorded puts times key.alert (store.get? key.alert)
      ((Dispatcher.send now a x i).1.get? key)
      (Log.sentTo key (log ++ (Dispatcher.send now a x i).2.map (now, ·))) := by
  rcases Dispatcher.send_cases now a x i with heq | ⟨hrecord, heq⟩
  · rwa [heq]
  · rw [heq, List.map_append, List.map_singleton, ← List.append_assoc, sentTo_concat]
    by_cases hkey : key = ⟨a.fingerprint, i.text⟩
    · subst hkey
      rw [ha] at hx ⊢
      rw [if_pos (show Delivery.key ⟨a, i⟩ = ⟨a.fingerprint, i.text⟩ from rfl),
        SortedMap.get?_insert_self]
      exact hx.send hnow hpast hrecord
    · rw [if_neg fun e => hkey e.symm, SortedMap.get?_insert_of_ne _ _ hkey]
      exact hx

theorem recorded_pass {puts : List Alert} {times : List Instant} {now : Instant}
    {stream : List (Except AlertError Alert)} (hfiled : h.Filed)
    (hstream : stream.Perm (AlertStore.stream h.alerts))
    (hnow : now ∈ times) (hpast : ∀ t ∈ times, t ≤ now)
    (hrecorded : Recorded puts times key.alert (h.alerts.store.get? key.alert)
      (h.dispatcher.delivered.get? key) (log.sentTo key)) :
    Recorded puts times key.alert (h.alerts.store.get? key.alert)
      ((h.pass now stream).1.dispatcher.delivered.get? key)
      (Log.sentTo key (log ++ (h.pass now stream).2.map (now, ·))) := by
  unfold pass Dispatcher.pass
  cases h.dispatcher.snapshot with
  | none => simpa using hrecorded
  | some s =>
      refine Dispatcher.foldl_visit_invariant
        (P := fun x => Recorded puts times key.alert (h.alerts.store.get? key.alert) (x.1.get? key)
          (Log.sentTo key (log ++ x.2.map (now, ·)))) ?_ ?_
      · simpa using hrecorded
      · intro a ha i x hx
        exact recorded_send hnow hpast (get?_of_mem_readable hfiled hstream ha) hx

/-! ### Dropping alerts and installing snapshots -/

theorem get?_collect (h : Hub) (now : Instant) (f : Fingerprint) :
    (h.collect now).1.alerts.store.get? f = (h.alerts.store.get? f).filter
      fun a => !AlertStore.isDue (h.dispatcher.limit now) a :=
  AlertStore.get?_collectBy _ _ _

theorem recorded_collect {puts : List Alert} {times : List Instant} {sent : List Delivered}
    (now : Instant)
    (hrecorded : Recorded puts times key.alert (h.alerts.store.get? key.alert)
      (h.dispatcher.delivered.get? key) sent) :
    Recorded puts times key.alert ((h.collect now).1.alerts.store.get? key.alert)
      ((h.collect now).1.dispatcher.delivered.get? key) sent := by
  rw [get?_collect]
  cases hstored : h.alerts.store.get? key.alert with
  | none =>
      rw [hstored] at hrecorded
      exact hrecorded.drop _
  | some a =>
      rw [hstored] at hrecorded
      cases hdue : AlertStore.isDue (h.dispatcher.limit now) a with
      | true =>
          rw [Option.filter_some, hdue]
          exact hrecorded.drop _
      | false =>
          have hkept : key.alert ∉ h.alerts.store.dueBy (h.dispatcher.limit now) := by
            rw [AlertStore.mem_dueBy_iff]
            simp [hstored, hdue]
          have hrecord : (h.collect now).1.dispatcher.delivered.get? key =
              h.dispatcher.delivered.get? key :=
            SortedMap.get?_filter_of_forall _ (by simp [hkept])
          rw [Option.filter_some, hdue, hrecord]
          exact hrecorded

/-- The records of an integration survive the installation of a snapshot that has it. -/
theorem get?_install {s : Snapshot} (hs : key.integration ∈ Dispatcher.integrationNames s) :
    (h.install s).dispatcher.delivered.get? key = h.dispatcher.delivered.get? key :=
  SortedMap.get?_filter_of_forall _ (by simp [hs])

/-! ### Runs -/

theorem Inv.start (nanos : Nat) : Inv key [] (idle nanos) [] where
  filed := by
    intro f a ha
    cases ha
  recorded := .empty

theorem Filed.collect (hfiled : h.Filed) (now : Instant) : (h.collect now).1.Filed := by
  intro f a ha
  rw [get?_collect, Option.filter_eq_some_iff] at ha
  exact hfiled f a ha.1

/-- Times do not go back, updates get newer, and the snapshots have the integration. -/
structure Regular (key : DeliveryKey) (events : List Event) : Prop where
  times : (events.flatMap Event.times).Pairwise (· ≤ ·)
  puts : (events.flatMap Event.puts).Pairwise fun a b =>
    a.fingerprint = b.fingerprint → a.updatedAt < b.updatedAt
  installs : ∀ s ∈ events.flatMap Event.installs, key.integration ∈ Dispatcher.integrationNames s

theorem Regular.init {e : Event} (h : Regular key (events ++ [e])) : Regular key events := by
  obtain ⟨htimes, hputs, hinstalls⟩ := h
  rw [List.flatMap_append] at htimes hputs hinstalls
  refine ⟨(List.pairwise_append.mp htimes).1, (List.pairwise_append.mp hputs).1, ?_⟩
  intro s hs
  exact hinstalls s (List.mem_append_left _ hs)

/-- **A regular run keeps the invariant.** -/
theorem Run.inv {nanos : Nat} (hrun : Run nanos events h log)
    (hregular : Regular key events) : Inv key events h log := by
  induction hrun with
  | start => exact .start nanos
  | put _ alerts ih =>
      obtain ⟨hfiled, hrecorded⟩ := ih hregular.init
      have hputs := hregular.puts
      simp only [List.flatMap_append, List.flatMap_singleton] at hputs
      refine ⟨filed_put alerts hfiled, ?_⟩
      simp only [List.flatMap_append, List.flatMap_singleton, Event.times, List.append_nil]
      exact recorded_put hrecorded hputs
  | silence _ silences ih =>
      obtain ⟨hfiled, hrecorded⟩ := ih hregular.init
      exact ⟨hfiled, by simpa [Event.puts, Event.times] using hrecorded⟩
  | @dispatch events h log _ now stream hstream ih =>
      obtain ⟨hfiled, hrecorded⟩ := ih hregular.init
      have htimes := hregular.times
      simp only [List.flatMap_append, List.flatMap_singleton, Event.times] at htimes
      refine ⟨?_, ?_⟩
      · unfold pass Filed
        exact hfiled
      · simp only [List.flatMap_append, List.flatMap_singleton, Event.puts, Event.times,
          List.append_nil]
        refine recorded_pass hfiled hstream (by simp) ?_
          (hrecorded.mono (List.Subset.refl _) (List.subset_append_left _ _))
        intro t ht
        rcases List.mem_append.mp ht with ht | ht
        · exact (List.pairwise_append.mp htimes).2.2 t ht now (by simp)
        · rw [List.mem_singleton.mp ht]
          exact Instant.le_refl now
  | collect _ now ih =>
      obtain ⟨hfiled, hrecorded⟩ := ih hregular.init
      refine ⟨hfiled.collect now, ?_⟩
      have hnext := (recorded_collect now hrecorded).mono (List.Subset.refl _)
        (List.subset_append_left _ [now])
      simpa [Event.puts, Event.times] using hnext
  | install _ s ih =>
      obtain ⟨hfiled, hrecorded⟩ := ih hregular.init
      refine ⟨hfiled, ?_⟩
      rw [get?_install (hregular.installs s (by simp [Event.installs]))]
      simpa [Event.puts, Event.times, Hub.install] using hrecorded

/-- **Every update is sent at most once as firing and at most once as resolved**, never as firing
after it was sent as resolved, and no update is sent after a newer one. -/
theorem sent_once {nanos : Nat} (hrun : Run nanos events h log)
    (htimes : (events.flatMap Event.times).Pairwise (· ≤ ·))
    (hputs : (events.flatMap Event.puts).Pairwise fun a b =>
      a.fingerprint = b.fingerprint → a.updatedAt < b.updatedAt)
    (hinstalls : ∀ s ∈ events.flatMap Event.installs,
      key.integration ∈ Dispatcher.integrationNames s) :
    (log.sentTo key).Nodup ∧
    (log.sentTo key).Pairwise (fun x y =>
      x.updatedAt = y.updatedAt → x.resolved = false ∧ y.resolved = true) ∧
    (log.sentTo key).Pairwise (fun x y => x.updatedAt ≤ y.updatedAt) := by
  have hinv := hrun.inv ⟨htimes, hputs, hinstalls⟩
  have hbefore := List.isChain_iff_pairwise.mp hinv.recorded.order
  refine ⟨?_, ?_, ?_⟩
  · exact hbefore.imp fun h => h.ne
  · exact hbefore.imp fun h heq => h.resolved heq
  · exact hbefore.imp fun h => h.le

/-- An alert is sent as firing while the silences are out of reach.  Its update has ended and is
kept for half a second: a pass within this time sends it as resolved, and the next one nothing. -/
theorem sent_once_resolved : ∃ i a b h log,
    Run 500000000 [.install (.ofIntegration i), .silence, .put [a], .dispatch ⟨1, 0⟩, .put [b],
      .collect ⟨2, 400000000⟩, .dispatch ⟨2, 400000000⟩, .dispatch ⟨2, 450000000⟩] h log ∧
    h.alerts.store.get? a.fingerprint = some b ∧
    log.sentTo ⟨a.fingerprint, i.text⟩ = [⟨a.updatedAt, false⟩, ⟨b.updatedAt, true⟩] ∧
    a.updatedAt < b.updatedAt ∧ (log.sentTo ⟨a.fingerprint, i.text⟩).Nodup := by
  let i : Integration := ⟨"a", .webhook, 0, true, ⟨.webhook, "b", none⟩⟩
  let a : Alert := { (default : Alert) with endsAt := ⟨5, 0⟩ }
  let b : Alert := { a with endsAt := ⟨2, 0⟩, updatedAt := ⟨2, 0⟩ }
  have h₀ : Run 500000000 [] (idle 500000000) [] := .start
  have h₁ := (h₀.install (.ofIntegration i)).silence ⟨default, some "c"⟩
  have h₂ := (h₁.put [a]).dispatch ⟨1, 0⟩ (.refl _)
  have h₃ := ((h₂.put [b]).collect ⟨2, 400000000⟩).dispatch ⟨2, 400000000⟩ (.refl _)
  have h₄ := h₃.dispatch ⟨2, 450000000⟩ (.refl _)
  refine ⟨i, a, b, _, _, h₄, ?_, ?_, by decide, ?_⟩
  · decide +kernel
  · decide +kernel
  · have hputs : a.fingerprint = b.fingerprint → a.updatedAt < b.updatedAt := fun _ => by decide
    exact (sent_once h₄ (by decide) (List.pairwise_pair.mpr hputs) (by decide +kernel)).1

end Hub

end AlertRouter
