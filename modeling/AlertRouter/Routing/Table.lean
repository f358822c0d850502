import AlertRouter.Config.Basic
import AlertRouter.Integration.Registry
import AlertRouter.Route.Basic

/-! # Routing tables

A routing table knows the integrations of every receiver and the tree of routes.  The tree may name
receivers that the table does not know. -/

namespace AlertRouter

structure RoutingTable where
  receivers : SortedMap String (List Integration)
  route : Route
deriving DecidableEq, Repr

namespace RoutingTable

/-- The table without receivers. -/
def ofRoute (route : Route) : RoutingTable := ⟨.empty, route⟩

instance : Inhabited RoutingTable := ⟨ofRoute default⟩

def contains (t : RoutingTable) (name : String) : Bool := t.receivers.contains name

/-- The integrations of a receiver, none if it is not known. -/
def integrations (t : RoutingTable) (name : String) : List Integration := t.receivers.getD name []

def receiverNames (t : RoutingTable) : List String := t.receivers.keys

/-- Adds a receiver under a new name. -/
def add (t : RoutingTable) (name : String) (is : List Integration) :
    Except AlertError RoutingTable :=
  if t.contains name then .error (.duplicateName name)
  else .ok { t with receivers := t.receivers.insert name is }

/-- Removes a receiver; gives its integrations. -/
def delete (t : RoutingTable) (name : String) :
    Except AlertError (List Integration × RoutingTable) :=
  match t.receivers.get? name with
  | some is => .ok (is, { t with receivers := t.receivers.erase name })
  | none => .error (.unknownReceiver name)

/-- Gives a known receiver other integrations. -/
def replace (t : RoutingTable) (name : String) (is : List Integration) :
    Except AlertError RoutingTable :=
  (t.delete name).bind fun (_, t) => t.add name is

/-- Compiles another tree of routes, with `receiver`, if given, at its root; gives the configuration
of the tree. -/
def withRoute (t : RoutingTable) (route : RouteConfig) (receiver : Option String) :
    Except AlertError (RouteConfig × RoutingTable) :=
  let route := match receiver with
    | some name => route.withReceiver name
    | none => route
  (Route.ofConfig route).map fun compiled => (route, { t with route := compiled })

/-- The integrations of a receiver that is resolved with the global settings. -/
def buildResolved (g : GlobalConfig) (registry : Registry) (link : Option Url)
    (receiver : Receiver) : Except AlertError (List Integration) :=
  (receiver.resolve g).bind (registry.build link)

/-- The table of a whole configuration. -/
def ofConfig (c : Config) (registry : Registry) (link : Option Url) :
    Except AlertError RoutingTable :=
  (Route.ofConfig c.route).bind fun route =>
    c.receivers.foldlM (fun t receiver =>
      (buildResolved c.global registry link receiver).bind fun is => t.add receiver.name is)
      (ofRoute route)

/-- The names of the receivers of an alert with these labels. -/
def receiversFor (t : RoutingTable) (labels : LabelSet) : List String := t.route.receiversFor labels

end RoutingTable

/-- A configuration with its table, and which one it is in the course of the program. -/
structure Snapshot where
  version : Nat
  config : Config
  table : RoutingTable
deriving DecidableEq, Repr, Inhabited

namespace Snapshot

/-- The first snapshot. -/
def initial (c : Config) (registry : Registry) (link : Option Url) : Except AlertError Snapshot :=
  (RoutingTable.ofConfig c registry link).map fun table => ⟨1, c, table⟩

end Snapshot

end AlertRouter
