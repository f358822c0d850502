import AlertRouter.Alert.Ingest
import AlertRouter.Alert.Query
import AlertRouter.Routing.Table
import AlertRouter.Silence.Query

/-! # Delivery

The dispatcher looks at all stored alerts, one pass after another.  It notes which silences mute an
alert.  An alert that is not muted goes to the integrations of all its receivers, each update of it
once as firing and once as resolved: the dispatcher remembers what it sent last. -/

namespace AlertRouter

/-- An alert and the name of an integration. -/
structure DeliveryKey where
  alert : Fingerprint
  integration : String
deriving DecidableEq, Repr

namespace DeliveryKey

instance : Ord DeliveryKey :=
  ⟨fun a b => (compare a.alert b.alert).then (compare a.integration b.integration)⟩

instance : Std.TransOrd DeliveryKey :=
  inferInstanceAs (Std.TransCmp (compareLex (compareOn alert) (compareOn integration)))

instance : Std.LawfulEqOrd DeliveryKey where
  eq_of_compare {a b} h := by
    obtain ⟨h, h'⟩ := Ordering.then_eq_eq.1 h
    cases a; cases b
    cases Std.LawfulEqOrd.eq_of_compare h
    cases Std.LawfulEqOrd.eq_of_compare h'
    rfl

end DeliveryKey

/-- What was sent last: which update, and whether as resolved. -/
structure Delivered where
  updatedAt : Instant
  resolved : Bool
deriving DecidableEq, Repr

/-- The dispatcher: the snapshot it works with, how many nanoseconds ended alerts are kept, and what
it sent last for each alert and integration. -/
structure Dispatcher where
  snapshot : Option Snapshot
  retention : Int
  delivered : SortedMap DeliveryKey Delivered
deriving DecidableEq, Repr

/-- One notification. -/
structure Delivery where
  alert : Alert
  integration : Integration
deriving DecidableEq, Repr

namespace Dispatcher

/-- The retention unless another one is given: five days, in seconds. -/
def defaultRetention : Nat := 432000

/-- The retention for a configured number of nanoseconds: the longest one if that is too long. -/
def window (nanos : Nat) : Int := if nanos ≤ Instant.longest then nanos else Instant.longest

/-- A dispatcher that has nothing to work with yet and keeps ended alerts so many nanoseconds. -/
def idle (nanos : Nat) : Dispatcher := ⟨none, window nanos, .empty⟩

/-- The dispatcher with another retention, in nanoseconds. -/
def withRetention (d : Dispatcher) (nanos : Nat) : Dispatcher :=
  { d with retention := window nanos }

/-- The latest end of the alerts to drop at `now`, if it is within the calendar. -/
def limit (d : Dispatcher) (now : Instant) : Option Instant := now.sub? d.retention

instance : Inhabited Dispatcher := ⟨idle (defaultRetention * Instant.second)⟩

/-- The integrations that an alert with these labels is routed to. -/
def candidates (s : Snapshot) (labels : LabelSet) : List Integration :=
  (s.table.receiversFor labels).flatMap s.table.integrations

/-- What has been sent, and the deliveries to be made. -/
abbrev Sending := SortedMap DeliveryKey Delivered × List Delivery

/-- Sends an alert to one integration, unless the integration does not want it or has had it. -/
def send (now : Instant) (a : Alert) (sending : Sending) (i : Integration) : Sending :=
  let resolved := a.resolvedAt now
  let key := ⟨a.fingerprint, i.text⟩
  let current := ⟨a.updatedAt, resolved⟩
  if (resolved && !i.sendsResolved) || sending.1.get? key == some current then sending
  else (sending.1.insert key current, sending.2 ++ [⟨a, i⟩])

/-- What changes in the course of a pass. -/
structure Pass where
  marker : Marker
  sending : Sending

/-- Deals with one alert.  If it cannot be said what mutes it, it is sent. -/
def visit (s : Snapshot) (silences : Remote SilenceStore) (now : Instant) (p : Pass) (a : Alert) :
    Pass :=
  let deliver := (candidates s a.labels).foldl (send now a) p.sending
  match silences.ask fun store => Silence.muting store.toList a.labels now with
  | .ok [] => ⟨p.marker.setSilenced a.fingerprint [], deliver⟩
  | .ok ids => ⟨p.marker.setSilenced a.fingerprint ids, p.sending⟩
  | .error _ => ⟨p.marker, deliver⟩

/-- The alerts of a stream up to the first failure. -/
def readable : List (Except AlertError Alert) → List Alert
  | .ok a :: rest => a :: readable rest
  | _ => []

/-- One pass over a stream of alerts at `now`; gives the deliveries to be made. -/
def pass (d : Dispatcher) (marker : Marker) (silences : Remote SilenceStore) (now : Instant)
    (stream : List (Except AlertError Alert)) : Dispatcher × Marker × List Delivery :=
  match d.snapshot with
  | none => (d, marker, [])
  | some s =>
    let p := (readable stream).foldl (visit s silences now) ⟨marker, d.delivered, []⟩
    ({ d with delivered := p.sending.1 }, p.marker, p.sending.2)

/-- Forgets what was sent about some alerts. -/
def forget (d : Dispatcher) (gone : List Fingerprint) : Dispatcher :=
  { d with delivered := d.delivered.filter fun key _ => !gone.contains key.alert }

/-- The names of the integrations of a snapshot. -/
def integrationNames (s : Snapshot) : List String :=
  s.table.receivers.values.flatten.map Integration.text

/-- Goes on with another snapshot; what was sent to integrations that are gone is forgotten. -/
def install (d : Dispatcher) (s : Snapshot) : Dispatcher :=
  { d with
    snapshot := some s
    delivered := d.delivered.filter fun key _ => (integrationNames s).contains key.integration }

end Dispatcher

/-- The dispatcher with the stores it works on. -/
structure Hub where
  alerts : Remote AlertStore
  silences : Remote SilenceStore
  marker : Marker
  dispatcher : Dispatcher
deriving Inhabited

namespace Hub

/-- A hub without alerts and silences that keeps ended alerts so many nanoseconds. -/
def idle (nanos : Nat) : Hub := ⟨default, default, default, .idle nanos⟩

/-- The hub for a retention in seconds; without one it keeps ended alerts as long as it can. -/
def empty (retention : Option Nat) : Hub :=
  .idle (retention.elim Instant.longest.toNat (· * Instant.second))

/-- Makes a pass at `now`; gives the deliveries to be made. -/
def dispatch (h : Hub) (now : Instant) : Hub × List Delivery :=
  let (dispatcher, marker, deliveries) :=
    h.dispatcher.pass h.marker h.silences now (AlertStore.stream h.alerts)
  ({ h with dispatcher, marker }, deliveries)

/-- Drops the alerts that have been kept long enough, with all that is known about them; gives their
fingerprints. -/
def collect (h : Hub) (now : Instant) : Hub × List Fingerprint :=
  let gone := h.alerts.store.dueBy (h.dispatcher.limit now)
  ({ h with
      alerts := { h.alerts with store := h.alerts.store.collectBy (h.dispatcher.limit now) }
      marker := gone.foldl Marker.forget h.marker
      dispatcher := h.dispatcher.forget gone },
    gone)

/-- One round of the dispatcher: dropping, then a pass. -/
def tick (h : Hub) (now : Instant) : Hub × List Delivery := (h.collect now).1.dispatch now

def install (h : Hub) (s : Snapshot) : Hub := { h with dispatcher := h.dispatcher.install s }

/-- Takes in posted alerts; while the store is out of reach they are counted all the same. -/
def ingest (h : Hub) (t : Tally) (posted : List Alert.Posted) (timeout : Nat) (now : Instant) :
    Except AlertError Nat × Hub × Tally :=
  let (answer, store, tally) := h.alerts.store.ingest t posted timeout now
  match h.alerts.reach with
  | .ok _ => (answer, { h with alerts := .up store }, tally)
  | .error e => (.error e, h, tally)

end Hub

end AlertRouter
