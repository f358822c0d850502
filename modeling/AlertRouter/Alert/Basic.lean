import AlertRouter.Error
import AlertRouter.Label.Fingerprint
import AlertRouter.Time.Rfc3339

/-! # Alerts

A client posts an alert with its labels and, if it knows them, the times of its start and end.  The
stored form has both times (`Posted.toAlert`): a missing end lies a resolve timeout after the time
of posting, a missing start is the given end or else the time of posting.  A time within the first
second of the year 1 counts as missing.

An alert is resolved from its end on. -/

namespace AlertRouter

/-- An alert as it is stored. -/
structure Alert where
  labels : LabelSet
  annotations : LabelSet
  startsAt : Instant
  endsAt : Instant
  updatedAt : Instant
  generatorUrl : String
  timeout : Bool
deriving DecidableEq, Repr, Inhabited

namespace Alert

def schema : Schema Alert where
  name := "Alert"
  blank := default
  fields := [
    .must "labels" LabelSet.codec (·.labels) fun v a => { a with labels := v },
    .must "annotations" LabelSet.codec (·.annotations) fun v a => { a with annotations := v },
    .must "startsAt" Rfc3339.codec (·.startsAt) fun v a => { a with startsAt := v },
    .must "endsAt" Rfc3339.codec (·.endsAt) fun v a => { a with endsAt := v },
    .must "updatedAt" Rfc3339.codec (·.updatedAt) fun v a => { a with updatedAt := v },
    .must "generatorURL" .text (·.generatorUrl) fun v a => { a with generatorUrl := v },
    .must "timeout" .flag (·.timeout) fun v a => { a with timeout := v }]

/-- What identifies the alert. -/
def fingerprint (a : Alert) : Fingerprint := .of a.labels

/-- Has the alert come to its end? -/
def resolvedAt (a : Alert) (now : Instant) : Bool := a.endsAt ≤ now

/-- The names of a label set have to be well-formed. -/
def checkNames (labels : LabelSet) : Except AlertError Unit :=
  match labels.badName? with
  | some name => .error (.badInput (.labelName name))
  | none => .ok ()

/-- The first reason, if any, not to store the alert. -/
def validate (a : Alert) : Except AlertError Unit :=
  if a.endsAt < a.startsAt then .error (.badInput .alertEndsFirst)
  else if a.labels.isEmpty then .error (.badInput .noLabels)
  else (checkNames a.labels).bind fun _ => checkNames a.annotations

/-! ### Posted alerts -/

/-- An alert as a client posts it. -/
structure Posted where
  labels : LabelSet
  annotations : LabelSet
  startsAt : Option Instant
  endsAt : Option Instant
  generatorUrl : String
deriving DecidableEq, Repr, Inhabited

namespace Posted

def schema : Schema Posted where
  name := "PostableAlert"
  blank := default
  fields := [
    .may "labels" LabelSet.codec (·.labels) fun v a => { a with labels := v },
    .may "annotations" LabelSet.codec (·.annotations) fun v a => { a with annotations := v },
    .maybe "startsAt" Rfc3339.codec (·.startsAt) fun v a => { a with startsAt := v },
    .maybe "endsAt" Rfc3339.codec (·.endsAt) fun v a => { a with endsAt := v },
    .may "generatorURL" .text (·.generatorUrl) fun v a => { a with generatorUrl := v }]

/-- A time that was really given. -/
def given (t : Option Instant) : Option Instant := t.filter fun t => !t.isZero

/-- The alert to store, posted at `now`; one without an end ends at `deadline`. -/
def toAlertBy (p : Posted) (now deadline : Instant) : Alert where
  labels := p.labels
  annotations := p.annotations
  startsAt := (given p.startsAt).getD ((given p.endsAt).getD now)
  endsAt := (given p.endsAt).getD deadline
  updatedAt := now
  generatorUrl := p.generatorUrl
  timeout := (given p.endsAt).isNone

/-- The alert to store, posted at `now`; one without an end ends after `timeout` seconds. -/
def toAlert (p : Posted) (now : Instant) (timeout : Nat) : Alert :=
  p.toAlertBy now (now.addSeconds timeout)

end Posted

end Alert

end AlertRouter
