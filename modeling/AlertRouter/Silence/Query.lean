import AlertRouter.Silence.Store

/-! # Asking about silences

Silences are listed in three groups: the active ones by their end, the pending ones by their start
and the expired ones by their end, the last one first.  Silences with equal times stay in the order
in which the store gives them. -/

namespace AlertRouter

namespace Silence

/-- The silences of `all` in one state, in the order given by `le`. -/
def inState (state : SilenceState) (now : Instant) (le : Silence → Silence → Bool)
    (all : List Silence) : List Silence :=
  (all.filter fun s => s.stateAt now == state).mergeSort le

/-- The order in which silences are listed. -/
def arrange (now : Instant) (all : List Silence) : List Silence :=
  inState .active now (fun a b => a.endsAt ≤ b.endsAt) all ++
    inState .pending now (fun a b => a.startsAt ≤ b.startsAt) all ++
    inState .expired now (fun a b => b.endsAt ≤ a.endsAt) all

/-- The silences whose matchers, taken as labels, are selected by the filter. -/
def listing (records : List SilenceRecord) (filter : List Matcher) (now : Instant) :
    Except AlertError (List Silence) :=
  (records.mapM SilenceRecord.toSilence).map fun all =>
    arrange now ((all.map (·.withState now)).filter fun s => Matcher.selects filter s.matcherLabels)

/-- The ids of the active silences that mute these labels, in order. -/
def muting (records : List SilenceRecord) (labels : LabelSet) (now : Instant) :
    Except AlertError (List String) :=
  let active := records.filter fun r => r.stateAt now == .active
  (active.mapM SilenceRecord.toSilence).map fun active =>
    ((active.filter (·.mutes labels)).map (·.id)).mergeSort fun a b => compare a b != .gt

end Silence

end AlertRouter
