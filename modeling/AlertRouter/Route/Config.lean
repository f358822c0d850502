import AlertRouter.Data.Tree
import AlertRouter.Doc.Nested
import AlertRouter.Matcher.Expression

/-! # Configured routes

The tree of routes as it is configured.  Each node has settings of its own, most of which may be
left out, and three lists of conditions: labels with their values, labels with patterns, and matcher
expressions. -/

namespace AlertRouter

/-- The settings of one node. -/
structure RouteSettings where
  receiver : String
  matchers : List String
  labels : SortedMap String String
  patterns : SortedMap String String
  continues : Bool
  groupBy : List String
  groupWait : Option Nat
  groupInterval : Option Nat
  repeatInterval : Option Nat
deriving DecidableEq, Repr

namespace RouteSettings

/-- The settings of a node for a receiver, without conditions. -/
def ofReceiver (name : String) : RouteSettings :=
  ⟨name, [], .empty, .empty, false, [], none, none, none⟩

instance : Inhabited RouteSettings := ⟨ofReceiver ""⟩

/-- The conditions of the node: labels, patterns and expressions, in this order. -/
def conditions (s : RouteSettings) : Except MatcherFault (List Matcher) := do
  let patterns ← s.patterns.entries.mapM fun e => Matcher.ofComparison .regexp e.1 e.2
  let expressions ← s.matchers.mapM Matcher.parseList
  pure (s.labels.entries.map (fun e => Matcher.equal e.1 e.2) ++ patterns ++ expressions.flatten)

end RouteSettings

/-- A configured tree of routes. -/
abbrev RouteConfig := Tree RouteSettings

namespace RouteConfig

/-- The route for a receiver, without conditions and without nodes below. -/
def ofReceiver (name : String) : RouteConfig := .node (.ofReceiver name) []

def receiver (r : RouteConfig) : String := r.value.receiver

/-- The route with another receiver at its root. -/
def withReceiver (r : RouteConfig) (name : String) : RouteConfig :=
  r.setValue { r.value with receiver := name }

/-- A field of the settings of the root. -/
def setting {α : Type} (field : (RouteConfig → α) → (α → RouteConfig → RouteConfig) →
    Field RouteConfig) (get : RouteSettings → α) (set : α → RouteSettings → RouteSettings) :
    Field RouteConfig :=
  field (fun r => get r.value) fun v r => r.setValue (set v r.value)

/-- The shape of a node whose subtrees are read and written by `below`. -/
def schema (below : Codec RouteConfig) : Schema RouteConfig where
  name := "RouteConfig"
  blank := default
  fields := [
    setting (.omitting (· == "") "receiver" .text) (·.receiver)
      fun v s => { s with receiver := v },
    setting (.omitting List.isEmpty "matchers" (.list .text)) (·.matchers)
      fun v s => { s with matchers := v },
    setting (.omitting (·.isEmpty) "match" (.map .text)) (·.labels)
      fun v s => { s with labels := v },
    setting (.omitting (·.isEmpty) "match_re" (.map .text)) (·.patterns)
      fun v s => { s with patterns := v },
    setting (.may "continue" .flag) (·.continues) fun v s => { s with continues := v },
    setting (.omitting List.isEmpty "group_by" (.list .text)) (·.groupBy)
      fun v s => { s with groupBy := v },
    setting (.maybe "group_wait_secs" .natural) (·.groupWait)
      fun v s => { s with groupWait := v },
    setting (.maybe "group_interval_secs" .natural) (·.groupInterval)
      fun v s => { s with groupInterval := v },
    setting (.maybe "repeat_interval_secs" .natural) (·.repeatInterval)
      fun v s => { s with repeatInterval := v },
    .omitting List.isEmpty "routes" (.list below) (·.children) fun v r => r.setChildren v]

def codec : Codec RouteConfig := .nested (fun below => (schema below).codec) Tree.depth

/-- The receivers that are named in the tree, each node before those below it. -/
def receiverNames (r : RouteConfig) : List String :=
  (r.toList.map (·.receiver)).filter (· != "")

/-- Does a node of the tree name this receiver? -/
def references (r : RouteConfig) (name : String) : Bool := r.receiverNames.contains name

/-- The first fault, if any, in a condition of the tree, each node before those below it. -/
def validate (r : RouteConfig) : Except AlertError Unit :=
  (r.toList.forM fun s => (s.conditions.map fun _ => ()).mapError .badMatcher)

end RouteConfig

end AlertRouter
