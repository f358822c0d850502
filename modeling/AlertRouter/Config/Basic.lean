import AlertRouter.Receiver.Basic
import AlertRouter.Route.Config

/-! # Configurations

A configuration has global settings, a tree of routes, the receivers that the routes name, and the
names of template files.  It is consistent (`validate`) if the receivers have different names, the
root route names one of them and so does every other route that names any, and all conditions of the
routes can be read. -/

namespace AlertRouter

structure Config where
  global : GlobalConfig
  route : RouteConfig
  receivers : List Receiver
  templates : List String
deriving DecidableEq, Repr, Inhabited

namespace Config

def schema : Schema Config where
  name := "Config"
  blank := default
  fields := [
    .may "global" GlobalConfig.schema.codec (·.global) fun v c => { c with global := v },
    .must "route" RouteConfig.codec (·.route) fun v c => { c with route := v },
    .may "receivers" (.list Receiver.schema.codec) (·.receivers)
      fun v c => { c with receivers := v },
    .omitting List.isEmpty "templates" (.list .text) (·.templates)
      fun v c => { c with templates := v }]

def receiverNames (c : Config) : List String := c.receivers.map (·.name)

/-- The first receiver with this name. -/
def receiver? (c : Config) (name : String) : Option Receiver :=
  c.receivers.find? (·.name == name)

/-- The first name, if any, that is empty or occurs earlier, given the names before. -/
def checkNames (seen : List String) : List String → Except ConfigFault Unit
  | [] => .ok ()
  | name :: names =>
    if name = "" then .error .unnamedReceiver
    else if name ∈ seen then .error (.duplicateReceiver name)
    else checkNames (name :: seen) names

/-- Do the routes name receivers that are there? -/
def checkRoute (c : Config) : Except ConfigFault Unit :=
  if c.route.receiver = "" then .error .noDefaultReceiver
  else match c.route.receiverNames.find? fun name => !c.receiverNames.contains name with
    | some name => .error (.undefinedReceiver name)
    | none => .ok ()

/-- Is the configuration consistent? -/
def validate (c : Config) : Except AlertError Unit := do
  (checkNames [] c.receiverNames).mapError .badConfig
  c.checkRoute.mapError .badConfig
  c.route.validate

end Config

end AlertRouter
