import AlertRouter.Alert.Status
import AlertRouter.Alert.Store
import AlertRouter.Data.Remote
import AlertRouter.Matcher.Basic

/-! # Asking about alerts

A query selects alerts by their labels, by the receivers they go to and by their status.  Alerts
that have ended before the time of the query are never listed.  The answer is in the order of the
fingerprints. -/

namespace AlertRouter

/-- What a query shows of an alert. -/
structure AlertView where
  labels : LabelSet
  annotations : LabelSet
  startsAt : Instant
  endsAt : Instant
  generatorUrl : String
  status : AlertStatus
  receivers : List String
  fingerprint : String
deriving DecidableEq, Repr, Inhabited

namespace AlertView

def schema : Schema AlertView where
  name := "AlertView"
  blank := default
  fields := [
    .must "labels" LabelSet.codec (·.labels) fun v a => { a with labels := v },
    .must "annotations" LabelSet.codec (·.annotations) fun v a => { a with annotations := v },
    .must "startsAt" Rfc3339.codec (·.startsAt) fun v a => { a with startsAt := v },
    .must "endsAt" Rfc3339.codec (·.endsAt) fun v a => { a with endsAt := v },
    .must "generatorURL" .text (·.generatorUrl) fun v a => { a with generatorUrl := v },
    .must "status" AlertStatus.schema.codec (·.status) fun v a => { a with status := v },
    .must "receivers" (.list .text) (·.receivers) fun v a => { a with receivers := v },
    .must "fingerprint" .text (·.fingerprint) fun v a => { a with fingerprint := v }]

def ofAlert (a : Alert) (status : AlertStatus) (receivers : List String) : AlertView where
  labels := a.labels
  annotations := a.annotations
  startsAt := a.startsAt
  endsAt := a.endsAt
  generatorUrl := a.generatorUrl
  status := status
  receivers := receivers
  fingerprint := a.fingerprint.text

end AlertView

/-- Which alerts to list: matchers of their labels, a pattern of one of their receivers, and which
kinds of status. -/
structure AlertQuery where
  matchers : List Matcher
  receiver : Option AnchoredPattern
  active : Bool
  silenced : Bool
  inhibited : Bool
  unprocessed : Bool
deriving DecidableEq, Repr

namespace AlertQuery

/-- The query for all alerts. -/
def all : AlertQuery := ⟨[], none, true, true, true, true⟩

instance : Inhabited AlertQuery := ⟨all⟩

/-- Restricts a query to alerts one of whose receivers fits a pattern. -/
def forReceiver (q : AlertQuery) (pattern : String) : Except AlertError AlertQuery :=
  match AnchoredPattern.ofSource? pattern with
  | some p => .ok { q with receiver := some p }
  | none => .error (.badInput .receiverPattern)

def admitsReceivers (q : AlertQuery) (receivers : List String) : Bool :=
  match q.receiver with
  | some p => receivers.any p.fits
  | none => true

def admitsStatus (q : AlertQuery) (s : AlertStatus) : Bool :=
  (q.active || s.state != .active) && (q.unprocessed || s.state != .unprocessed) &&
    (q.silenced || s.silencedBy.isEmpty) && (q.inhibited || s.inhibitedBy.isEmpty)

/-- What the query shows of an alert at `now`, if anything. -/
def view? (q : AlertQuery) (marker : Marker) (route : LabelSet → List String) (now : Instant)
    (a : Alert) : Option AlertView :=
  let receivers := route a.labels
  let status := marker.status a.fingerprint
  if now ≤ a.endsAt ∧ q.admitsReceivers receivers ∧ Matcher.selects q.matchers a.labels ∧
      q.admitsStatus status then
    some (.ofAlert a status receivers)
  else none

/-- Reads alerts one after another, unless the reader is stopped before a given one (counted from
0) or a read fails. -/
def drain : Option Nat → List (Except AlertError Alert) → Except AlertError (List Alert)
  | some 0, _ => .error .cancelled
  | _, [] => .ok []
  | stop, item :: rest => item.bind fun a => (drain (stop.map (· - 1)) rest).map (a :: ·)

/-- The alerts that the query lists out of a stream, in the order of their fingerprints. -/
def list (q : AlertQuery) (marker : Marker) (route : LabelSet → List String) (now : Instant)
    (stop : Option Nat) (stream : List (Except AlertError Alert)) :
    Except AlertError (List AlertView) :=
  (drain stop stream).map fun alerts =>
    (alerts.filterMap (q.view? marker route now)).mergeSort fun a b =>
      compare a.fingerprint b.fingerprint != .gt

end AlertQuery

/-- The stored alerts as a stream, which fails while the store is out of reach. -/
def AlertStore.stream (s : Remote AlertStore) : List (Except AlertError Alert) :=
  match s.outage with
  | none => s.store.toList.map .ok
  | some reason => [.error (.storage reason)]

end AlertRouter
