import AlertRouter.Alert.Store
import AlertRouter.Alert.Tally

/-! # Taking in alerts

A batch of posted alerts is taken in as far as it is valid: valid alerts are stored even if others
of the batch are not, and the answer collects what is wrong with the others.  Labels without a value
are dropped first. -/

namespace AlertRouter

namespace Alert

/-- The alert without the labels that have no value. -/
def withoutEmptyLabels (a : Alert) : Alert := { a with labels := a.labels.withoutEmpty }

end Alert

/-- A batch that has been looked through: the alerts to store, what is wrong with the others, and
the counters. -/
structure Batch where
  valid : List Alert
  errors : List AlertError
  tally : Tally

namespace Batch

def empty (t : Tally) : Batch := ⟨[], [], t⟩

/-- Sorts one more alert into the batch, at `now`. -/
def add (now : Instant) (b : Batch) (a : Alert) : Batch :=
  let tally := if now < a.endsAt then b.tally.countFiring else b.tally.countResolved
  let a := a.withoutEmptyLabels
  match a.validate with
  | .ok _ => { b with valid := b.valid ++ [a], tally := tally }
  | .error e => { b with errors := b.errors ++ [e], tally := tally.countInvalid }

/-- The alerts that were posted at `now`, sorted; those without an end end at `deadline`. -/
def ofPosted (t : Tally) (posted : List Alert.Posted) (deadline now : Instant) : Batch :=
  posted.foldl (fun b p => add now b (p.toAlertBy now deadline)) (empty t)

/-- The answer to a batch that could be stored: the number of alerts, or what was wrong. -/
def answer (b : Batch) : Except AlertError Nat :=
  if b.errors.isEmpty then .ok b.valid.length else .error (.invalidAlerts b.errors)

end Batch

/-- Takes in alerts that were posted at `now`, those without an end ending at `deadline`; gives the
answer, the store and the counters. -/
def AlertStore.ingestBy (s : AlertStore) (t : Tally) (posted : List Alert.Posted)
    (deadline now : Instant) : Except AlertError Nat × AlertStore × Tally :=
  let b := Batch.ofPosted t posted deadline now
  (b.answer, s.put b.valid, b.tally)

/-- Takes in posted alerts at `now`, those without an end ending after `timeout` seconds; gives the
answer, the store and the counters. -/
def AlertStore.ingest (s : AlertStore) (t : Tally) (posted : List Alert.Posted) (timeout : Nat)
    (now : Instant) : Except AlertError Nat × AlertStore × Tally :=
  s.ingestBy t posted (now.addSeconds timeout) now

end AlertRouter
