import AlertRouter.Http.Message

/-! # Resources

The paths of the API and what can be done at each of them. -/

namespace AlertRouter.Api

/-- What a request can ask for.  The id of a silence is still percent-encoded. -/
inductive Operation where
  | showStatus
  | listReceivers
  | addReceiver
  | editReceiver
  | deleteReceiver
  | listAlerts
  | postAlerts
  | listSilences
  | postSilence
  | showSilence (id : String)
  | expireSilence (id : String)
  | showCounters
deriving DecidableEq, Repr

/-- A place in the API. -/
inductive Resource where
  | status
  | receivers
  | receiver
  | alerts
  | silences
  | silence (id : String)
  | counters
deriving DecidableEq, Repr

namespace Resource

/-- The start of the paths of single silences. -/
def silencePath : String := "/api/v1/silence/"

/-- The id of a silence, if the path is that of one. -/
def silenceId? (path : String) : Option String :=
  let cs := path.toList
  let n := silencePath.toList.length
  let id := cs.drop n
  if cs.take n = silencePath.toList ∧ id ≠ [] ∧ '/' ∉ id then some (String.ofList id) else none

def ofPath? (path : String) : Option Resource :=
  if path = "/api/v1/status" then some status
  else if path = "/api/v1/receivers" then some receivers
  else if path = "/api/v1/receivers/" then some receiver
  else if path = "/api/v1/alerts" then some alerts
  else if path = "/api/v1/silences" then some silences
  else if path = "/metrics" then some counters
  else (silenceId? path).map silence

/-- What can be done at a place. -/
def operations : Resource → List (Http.Method × Operation)
  | status => [(.get, .showStatus)]
  | receivers => [(.get, .listReceivers), (.post, .addReceiver)]
  | receiver => [(.put, .editReceiver), (.delete, .deleteReceiver)]
  | alerts => [(.get, .listAlerts), (.post, .postAlerts)]
  | silences => [(.get, .listSilences), (.post, .postSilence)]
  | silence id => [(.get, .showSilence id), (.delete, .expireSilence id)]
  | counters => [(.get, .showCounters)]

/-- The methods that a place knows; what can be got can also be asked for its headers. -/
def methods (r : Resource) : List Http.Method :=
  r.operations.flatMap fun (m, _) => if m = .get then [.get, .head] else [m]

def operation? (r : Resource) (m : Http.Method) : Option Operation :=
  r.operations.lookup (if m = .head then .get else m)

end Resource

end AlertRouter.Api
