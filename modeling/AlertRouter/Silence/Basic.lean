import AlertRouter.Matcher.Basic
import AlertRouter.Time.Rfc3339

/-! # Silences

A silence mutes the alerts that satisfy all of its matchers from its start on and before its end.
A silence without matchers mutes nothing.

The stored form (`SilenceRecord`) keeps the matchers as texts; it is read back by
`SilenceRecord.toSilence`. -/

namespace AlertRouter

inductive SilenceState where
  | expired
  | active
  | pending
deriving DecidableEq, Repr

namespace SilenceState

def all : List SilenceState := [expired, active, pending]

def name : SilenceState → String
  | expired => "expired"
  | active => "active"
  | pending => "pending"

def codec : Codec SilenceState := .variant (all.map fun s => (s.name, s)) name

/-- The state at `now` of a silence with this window. -/
def ofWindow (startsAt endsAt now : Instant) : SilenceState :=
  if now < startsAt then pending else if now < endsAt then active else expired

end SilenceState

/-- A silence; its state is given where it is known. -/
structure Silence where
  id : String
  matchers : List Matcher
  startsAt : Instant
  endsAt : Instant
  updatedAt : Instant
  createdBy : String
  comment : String
  state : Option SilenceState
deriving DecidableEq, Repr

namespace Silence

/-- The fields that are read, at `now`: a silence without a time of writing is written now. -/
def schema (now : Instant) : Schema Silence where
  name := "Silence"
  blank := ⟨"", [], now, now, now, "", "", none⟩
  fields := [
    .may "id" .text (·.id) fun v s => { s with id := v },
    .must "matchers" (.list Matcher.codec) (·.matchers) fun v s => { s with matchers := v },
    .must "startsAt" Rfc3339.codec (·.startsAt) fun v s => { s with startsAt := v },
    .must "endsAt" Rfc3339.codec (·.endsAt) fun v s => { s with endsAt := v },
    .may "updatedAt" Rfc3339.codec (·.updatedAt) fun v s => { s with updatedAt := v },
    .may "createdBy" .text (·.createdBy) fun v s => { s with createdBy := v },
    .may "comment" .text (·.comment) fun v s => { s with comment := v }]

/-- The state as it is shown. -/
def statusDoc (state : SilenceState) : Doc := .record [("state", .text state.name)]

/-- Silences in documents; the state is written where it is known and never read. -/
def codec (now : Instant) : Codec Silence where
  read := (schema now).read
  write s := .record ((schema now).writeFields s ++
    s.state.toList.map fun state => ("status", statusDoc state))

/-- The state at some time. -/
def stateAt (s : Silence) (now : Instant) : SilenceState := .ofWindow s.startsAt s.endsAt now

/-- The silence with its state at some time. -/
def withState (s : Silence) (now : Instant) : Silence := { s with state := some (s.stateAt now) }

/-- Does the silence, while active, mute alerts with these labels? -/
def mutes (s : Silence) (labels : LabelSet) : Bool :=
  !s.matchers.isEmpty && s.matchers.all (·.holdsOf labels)

/-- The names and values of the matchers, as labels. -/
def matcherLabels (s : Silence) : LabelSet := .ofList (s.matchers.map fun m => (m.name, m.value))

end Silence

/-! ### Stored form -/

/-- A matcher as it is stored. -/
structure MatcherRecord where
  name : String
  pattern : String
  comparison : Comparison
deriving DecidableEq, Repr

namespace MatcherRecord

def schema : Schema MatcherRecord where
  name := "MatcherRecord"
  blank := ⟨"", "", .equal⟩
  fields := [
    .must "name" .text (·.name) fun v m => { m with name := v },
    .must "pattern" .text (·.pattern) fun v m => { m with pattern := v },
    .must "type" Comparison.codec (·.comparison) fun v m => { m with comparison := v }]

def ofMatcher (m : Matcher) : MatcherRecord := ⟨m.name, m.value, m.comparison⟩

def matcher (r : MatcherRecord) : Except MatcherFault Matcher :=
  Matcher.ofComparison r.comparison r.name r.pattern

theorem matcher_ofMatcher (m : Matcher) : (ofMatcher m).matcher = .ok m :=
  Matcher.ofComparison_comparison m

end MatcherRecord

/-- A silence as it is stored. -/
structure SilenceRecord where
  id : String
  matchers : List MatcherRecord
  startsAt : Instant
  endsAt : Instant
  updatedAt : Instant
  createdBy : String
  comment : String
deriving DecidableEq, Repr

namespace SilenceRecord

def schema : Schema SilenceRecord where
  name := "SilenceRecord"
  blank := ⟨"", [], default, default, default, "", ""⟩
  fields := [
    .must "id" .text (·.id) fun v r => { r with id := v },
    .must "matchers" (.list MatcherRecord.schema.codec) (·.matchers)
      fun v r => { r with matchers := v },
    .must "starts_at" Rfc3339.codec (·.startsAt) fun v r => { r with startsAt := v },
    .must "ends_at" Rfc3339.codec (·.endsAt) fun v r => { r with endsAt := v },
    .must "updated_at" Rfc3339.codec (·.updatedAt) fun v r => { r with updatedAt := v },
    .must "created_by" .text (·.createdBy) fun v r => { r with createdBy := v },
    .must "comment" .text (·.comment) fun v r => { r with comment := v }]

def ofSilence (s : Silence) : SilenceRecord where
  id := s.id
  matchers := s.matchers.map .ofMatcher
  startsAt := s.startsAt
  endsAt := s.endsAt
  updatedAt := s.updatedAt
  createdBy := s.createdBy
  comment := s.comment

/-- The silence of a record; a stored pattern may denote no expression. -/
def toSilence (r : SilenceRecord) : Except AlertError Silence :=
  ((r.matchers.mapM MatcherRecord.matcher).mapError .badMatcher).map fun matchers =>
    { id := r.id
      matchers
      startsAt := r.startsAt
      endsAt := r.endsAt
      updatedAt := r.updatedAt
      createdBy := r.createdBy
      comment := r.comment
      state := none }

/-- The state at some time. -/
def stateAt (r : SilenceRecord) (now : Instant) : SilenceState := .ofWindow r.startsAt r.endsAt now

end SilenceRecord

end AlertRouter
