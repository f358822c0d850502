import AlertRouter.Label.Fingerprint

/-! # What holds alerts back

The marker remembers for each alert which silences and which other alerts hold it back.  An alert it
does not know is unprocessed; of the others, those that something holds back are suppressed. -/

namespace AlertRouter

inductive AlertState where
  | unprocessed
  | active
  | suppressed
deriving DecidableEq, Repr, Inhabited

namespace AlertState

def all : List AlertState := [unprocessed, active, suppressed]

def name : AlertState → String
  | unprocessed => "unprocessed"
  | active => "active"
  | suppressed => "suppressed"

def codec : Codec AlertState := .variant (all.map fun s => (s.name, s)) name

end AlertState

/-- What is known about an alert: its state, the silences that mute it and the alerts that inhibit
it. -/
structure AlertStatus where
  state : AlertState
  silencedBy : List String
  inhibitedBy : List String
deriving DecidableEq, Repr, Inhabited

namespace AlertStatus

def schema : Schema AlertStatus where
  name := "AlertStatus"
  blank := default
  fields := [
    .must "state" AlertState.codec (·.state) fun v s => { s with state := v },
    .must "silencedBy" (.list .text) (·.silencedBy) fun v s => { s with silencedBy := v },
    .must "inhibitedBy" (.list .text) (·.inhibitedBy) fun v s => { s with inhibitedBy := v }]

/-- The status of an alert with these reasons to hold it back. -/
def ofReasons (silencedBy inhibitedBy : List String) : AlertStatus :=
  ⟨if silencedBy.isEmpty && inhibitedBy.isEmpty then .active else .suppressed,
    silencedBy, inhibitedBy⟩

end AlertStatus

/-- The statuses of the alerts that have been looked at. -/
structure Marker where
  statuses : SortedMap Fingerprint AlertStatus
deriving DecidableEq, Repr

namespace Marker

def empty : Marker := ⟨.empty⟩

instance : Inhabited Marker := ⟨empty⟩

def status (m : Marker) (f : Fingerprint) : AlertStatus := m.statuses.getD f default

/-- Records which silences mute an alert. -/
def setSilenced (m : Marker) (f : Fingerprint) (ids : List String) : Marker :=
  ⟨m.statuses.insert f (.ofReasons ids (m.status f).inhibitedBy)⟩

/-- Records which alerts inhibit an alert. -/
def setInhibited (m : Marker) (f : Fingerprint) (ids : List String) : Marker :=
  ⟨m.statuses.insert f (.ofReasons (m.status f).silencedBy ids)⟩

/-- Nothing holds the alert back any more. -/
def setActive (m : Marker) (f : Fingerprint) : Marker := ⟨m.statuses.insert f (.ofReasons [] [])⟩

def forget (m : Marker) (f : Fingerprint) : Marker := ⟨m.statuses.erase f⟩

end Marker

end AlertRouter
