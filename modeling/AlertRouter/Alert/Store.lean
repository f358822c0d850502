import AlertRouter.Alert.Basic

/-! # The alert store

One alert per fingerprint, the last one put.  An update that starts no later than the stored alert
ends continues it: the stored start is kept if it is the earlier one.  Alerts are dropped once they
have ended a retention ago. -/

namespace AlertRouter

/-- The stored alerts by fingerprint. -/
structure AlertStore where
  alerts : SortedMap Fingerprint Alert
deriving DecidableEq, Repr

namespace AlertStore

def empty : AlertStore := ⟨.empty⟩

instance : Inhabited AlertStore := ⟨empty⟩

def get? (s : AlertStore) (f : Fingerprint) : Option Alert := s.alerts.get? f

def size (s : AlertStore) : Nat := s.alerts.size

/-- The stored alerts in the order of their fingerprints. -/
def toList (s : AlertStore) : List Alert := s.alerts.values

/-- The update `new`, which keeps the start of the alert that it continues. -/
def continued (old : Option Alert) (new : Alert) : Alert :=
  match old with
  | some a =>
    if new.startsAt ≤ a.endsAt ∧ a.startsAt < new.startsAt then { new with startsAt := a.startsAt }
    else new
  | none => new

def insert (s : AlertStore) (a : Alert) : AlertStore :=
  ⟨s.alerts.insert a.fingerprint (continued (s.get? a.fingerprint) a)⟩

/-- Stores alerts one after another. -/
def put (s : AlertStore) (alerts : List Alert) : AlertStore := alerts.foldl insert s

/-- Is an alert due to be dropped, having ended at the latest at `limit`? -/
def isDue (limit : Option Instant) (a : Alert) : Bool :=
  match limit with
  | some t => a.endsAt ≤ t
  | none => false

/-- The fingerprints of the alerts to drop that have ended at the latest at `limit`. -/
def dueBy (s : AlertStore) (limit : Option Instant) : List Fingerprint :=
  (s.alerts.filter fun _ a => isDue limit a).keys

/-- The store without the alerts to drop. -/
def collectBy (s : AlertStore) (limit : Option Instant) : AlertStore :=
  ⟨s.alerts.filter fun _ a => !isDue limit a⟩

theorem mem_dueBy_iff {s : AlertStore} {limit : Option Instant} {f : Fingerprint} :
    f ∈ s.dueBy limit ↔ ∃ a, s.get? f = some a ∧ isDue limit a = true :=
  SortedMap.mem_keys_filter

theorem get?_collectBy (s : AlertStore) (limit : Option Instant) (f : Fingerprint) :
    (s.collectBy limit).get? f = (s.get? f).filter (!isDue limit ·) :=
  SortedMap.get?_filter _ _ _

/-- The latest end of the alerts to drop at `now`; without a retention, or if the limit lies beyond
the calendar, nothing is dropped. -/
def limit (now : Instant) (retention : Option Int) : Option Instant :=
  retention.bind now.subSeconds?

/-- The fingerprints of the alerts to drop at `now`. -/
def due (s : AlertStore) (now : Instant) (retention : Option Int) : List Fingerprint :=
  s.dueBy (limit now retention)

/-- The store without the alerts to drop at `now`. -/
def collect (s : AlertStore) (now : Instant) (retention : Option Int) : AlertStore :=
  s.collectBy (limit now retention)

end AlertStore

end AlertRouter
