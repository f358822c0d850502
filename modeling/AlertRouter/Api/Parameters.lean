import AlertRouter.Alert.Query
import AlertRouter.Http.Query
import AlertRouter.Matcher.Expression

/-! # Parameters of queries

How lists of alerts and silences are asked for.  A parameter that is left out or empty restricts
nothing. -/

namespace AlertRouter.Api

/-- Parameters by their names. -/
abbrev Parameters := List (String × String)

/-- A flag in a parameter. -/
def flag (name : String) (value : Option String) : Except AlertError Bool :=
  match value with
  | none => .ok true
  | some v =>
    if v = "" ∨ v = "true" then .ok true
    else if v = "false" then .ok false
    else .error (.badInput (.flag name v))

namespace Parameters

def flag (ps : Parameters) (name : String) : Except AlertError Bool :=
  Api.flag name (ps.lookup name)

/-- The matchers that labels have to satisfy. -/
def filter (ps : Parameters) : Except AlertError (List Matcher) :=
  match ps.lookup "filter" with
  | none => .ok []
  | some expr => if expr = "" then .ok [] else (Matcher.parseList expr).mapError .badMatcher

/-- The names of the parameters of a list of alerts. -/
def ofAlerts : List String :=
  ["filter", "receiver", "active", "silenced", "inhibited", "unprocessed"]

/-- The names of the parameters of a list of silences. -/
def ofSilences : List String := ["filter"]

/-- The query for alerts that the parameters describe. -/
def alertQuery (ps : Parameters) : Except AlertError AlertQuery := do
  let matchers ← ps.filter
  let active ← ps.flag "active"
  let silenced ← ps.flag "silenced"
  let inhibited ← ps.flag "inhibited"
  let unprocessed ← ps.flag "unprocessed"
  let q : AlertQuery := ⟨matchers, none, active, silenced, inhibited, unprocessed⟩
  match ps.lookup "receiver" with
  | none => pure q
  | some pattern => if pattern = "" then pure q else q.forReceiver pattern

end Parameters

end AlertRouter.Api
