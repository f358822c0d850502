import AlertRouter.Data.Remote
import AlertRouter.Silence.Basic

/-! # The silence store

Records by their ids.  A silence is written as new if it has no id, under one that is given out for
it, and in place of the stored one otherwise.  Expiring ends an active silence now and empties the
window of a pending one. -/

namespace AlertRouter

/-- The stored silences and the number of ids given out. -/
structure SilenceStore where
  records : SortedMap String SilenceRecord
  issued : Nat
deriving DecidableEq, Repr

namespace SilenceStore

def empty : SilenceStore := ⟨.empty, 0⟩

instance : Inhabited SilenceStore := ⟨empty⟩

def get? (s : SilenceStore) (id : String) : Option SilenceRecord := s.records.get? id

/-- The stored records in the order of their ids. -/
def toList (s : SilenceStore) : List SilenceRecord := s.records.values

/-- The records with these ids, unknown ones being passed over; all records for `none`. -/
def query (s : SilenceStore) : Option (List String) → List SilenceRecord
  | some ids => ids.filterMap s.get?
  | none => s.toList

/-- The id of the next new silence. -/
def freshId (s : SilenceStore) : String := "S" ++ toString (s.issued + 1)

/-- The first reason, if any, not to store a record. -/
def check (r : SilenceRecord) : Except AlertError Unit :=
  if r.matchers.isEmpty then .error (.badInput .noMatchers)
  else if r.matchers.any (·.name == "") then .error (.badInput .unnamedMatcher)
  else if r.endsAt < r.startsAt then .error (.badInput .silenceEndsFirst)
  else .ok ()

/-- Writes a record at `now`, a new one under the id `fresh`; gives its id. -/
def write (s : SilenceStore) (fresh : String) (r : SilenceRecord) (now : Instant) :
    Except AlertError (String × SilenceStore) :=
  (check r).bind fun _ =>
    if r.id = "" then
      .ok (fresh, ⟨s.records.insert fresh { r with id := fresh, updatedAt := now }, s.issued + 1⟩)
    else if s.records.contains r.id then
      .ok (r.id, ⟨s.records.insert r.id { r with updatedAt := now }, s.issued⟩)
    else .error (.unknownSilence r.id)

/-- Writes a record at `now`, a new one under the next id; gives its id. -/
def set (s : SilenceStore) (r : SilenceRecord) (now : Instant) :
    Except AlertError (String × SilenceStore) := s.write s.freshId r now

/-- The record of the silence `id` once it has been ended at `now`. -/
def ended (id : String) (r : SilenceRecord) (now : Instant) : Except AlertError SilenceRecord :=
  match r.stateAt now with
  | .expired => .error (.badInput (.silenceExpired id))
  | .active => .ok { r with endsAt := now, updatedAt := now }
  | .pending => .ok { r with startsAt := now, endsAt := now, updatedAt := now }

/-- Ends a silence at `now`. -/
def expire (s : SilenceStore) (id : String) (now : Instant) :
    Except AlertError (Unit × SilenceStore) :=
  match s.get? id with
  | none => .error (.unknownSilence id)
  | some r => (ended id r now).map fun r => ((), ⟨s.records.insert id r, s.issued⟩)

/-- The first reason, if any, to refuse a silence before the store is asked. -/
def checkWindow (silence : Silence) (now : Instant) : Except AlertError Unit :=
  if silence.startsAt = silence.endsAt then .error (.badInput .silenceEmpty)
  else if silence.endsAt < now then .error (.badInput .silencePast)
  else .ok ()

/-- Stores a silence that a client has sent, a new one under the id `fresh`; gives its id. -/
def createAs (fresh : String) (s : Remote SilenceStore) (silence : Silence) (now : Instant) :
    Except AlertError String × Remote SilenceStore :=
  match checkWindow silence now with
  | .error e => (.error e, s)
  | .ok _ => s.change fun s => s.write fresh (.ofSilence silence) now

/-- Stores a silence that a client has sent, a new one under the next id; gives its id. -/
def create (s : Remote SilenceStore) (silence : Silence) (now : Instant) :
    Except AlertError String × Remote SilenceStore := createAs s.store.freshId s silence now

/-- The silence with this id and its state at `now`. -/
def find (s : SilenceStore) (id : String) (now : Instant) : Except AlertError Silence :=
  match s.get? id with
  | none => .error (.unknownSilence id)
  | some r => r.toSilence.map (·.withState now)

end SilenceStore

end AlertRouter
