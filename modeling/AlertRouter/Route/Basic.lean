import AlertRouter.Route.Config

/-! # Routes

The tree of routes as it is used: every node has its matchers and its complete options, those that
were left out being taken from the node above.

An alert goes down the tree (`Route.matching`).  It enters a node whose matchers hold of its labels
and goes on into the children one after another, up to the first one that takes it and does not let
it continue.  The nodes where it cannot go deeper are where it is routed to. -/

namespace AlertRouter

/-- What a node says about the notifications for its alerts; times are in seconds. -/
structure RouteOptions where
  receiver : String
  groupBy : List String
  groupWait : Nat
  groupInterval : Nat
  repeatInterval : Nat
deriving DecidableEq, Repr

namespace RouteOptions

/-- The options above the root. -/
def initial : RouteOptions := ⟨"", [], 30, 300, 14400⟩

instance : Inhabited RouteOptions := ⟨initial⟩

/-- The options of a node below a node with the options `above`. -/
def inherit (above : RouteOptions) (s : RouteSettings) : RouteOptions where
  receiver := if s.receiver = "" then above.receiver else s.receiver
  groupBy := if s.groupBy.isEmpty then above.groupBy else s.groupBy
  groupWait := s.groupWait.getD above.groupWait
  groupInterval := s.groupInterval.getD above.groupInterval
  repeatInterval := s.repeatInterval.getD above.repeatInterval

end RouteOptions

/-- One node of the tree. -/
structure RouteNode where
  matchers : List Matcher
  options : RouteOptions
  continues : Bool
deriving DecidableEq, Repr

instance : Inhabited RouteNode := ⟨⟨[], .initial, false⟩⟩

/-- A tree of routes. -/
abbrev Route := Tree RouteNode

namespace Route

mutual

/-- The tree of a configured route below a node with the options `above`; of several faults the one
that is deepest on the left is reported. -/
def compile (above : RouteOptions) : RouteConfig → Except MatcherFault Route
  | .node s rs =>
    let options := above.inherit s
    (compileAll options rs).bind fun children =>
      s.conditions.map fun matchers => .node ⟨matchers, options, s.continues⟩ children

/-- The trees of several configured routes. -/
def compileAll (above : RouteOptions) : List RouteConfig → Except MatcherFault (List Route)
  | [] => .ok []
  | r :: rs => (compile above r).bind fun t => (compileAll above rs).map (t :: ·)

end

/-- The tree of a configuration. -/
def ofConfig (r : RouteConfig) : Except AlertError Route :=
  (compile .initial r).mapError .badMatcher

/-- Do all matchers of a node hold of the labels? -/
def accepts (labels : LabelSet) (n : RouteNode) : Bool := n.matchers.all (·.holdsOf labels)

mutual

/-- The nodes where an alert with these labels ends up, none if the root does not accept it. -/
def matching (labels : LabelSet) : Route → List RouteNode
  | .node n rs =>
    if accepts labels n then
      match matchingBelow labels rs with
      | [] => [n]
      | ns => ns
    else []

/-- The nodes where the alert ends up below a node, given the children that are left. -/
def matchingBelow (labels : LabelSet) : List Route → List RouteNode
  | [] => []
  | r :: rs =>
    let ns := matching labels r
    if ns.isEmpty || r.value.continues then ns ++ matchingBelow labels rs else ns

end

/-- The receivers of an alert with these labels, in the order of the tree. -/
def receiversFor (r : Route) (labels : LabelSet) : List String :=
  (r.matching labels).map (·.options.receiver)

end Route

end AlertRouter
