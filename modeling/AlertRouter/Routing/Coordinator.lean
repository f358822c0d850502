import AlertRouter.Routing.Table

/-! # Reconfiguration

The coordinator handles requests to change the configuration one after another.  A request is first
prepared on a copy of the current snapshot: this gives the next configuration and its table, or an
error, and then nothing has happened.  Only then is the dispatcher stopped, the next snapshot
published and installed, and the dispatcher started again.

A dispatcher that is started begins to run when its turn comes (`settle`), at the latest when it is
waited for after it has been told to stop again. -/

namespace AlertRouter

/-- What the dispatcher is told to do. -/
inductive DispatcherCall where
  | stop
  | install (version : Nat)
  | run
deriving DecidableEq, Repr

inductive PipelineState where
  | running
  | reconfiguring
  | stopped
deriving DecidableEq, Repr

namespace PipelineState

def all : List PipelineState := [running, reconfiguring, stopped]

def name : PipelineState → String
  | running => "running"
  | reconfiguring => "reconfiguring"
  | stopped => "stopped"

end PipelineState

/-- A change of the configuration. -/
inductive ReconfigRequest where
  | add (receiver : Receiver)
  | edit (receiver : Receiver)
  | delete (name : String)
  | update (config : Config)
deriving DecidableEq, Repr

/-- The coordinator: what it builds with, the published snapshot, the state of the pipeline, whether
the dispatcher has been started and does not run yet, and all that the dispatcher has been told. -/
structure Coordinator where
  registry : Registry
  link : Option Url
  snapshot : Snapshot
  state : PipelineState
  starting : Bool
  calls : List DispatcherCall

namespace Coordinator

/-- The coordinator of a consistent configuration. -/
def start (c : Config) (registry : Registry) (link : Option Url) : Except AlertError Coordinator :=
  c.validate.bind fun _ => (Snapshot.initial c registry link).map fun snapshot =>
    ⟨registry, link, snapshot, .running, true, [.install snapshot.version]⟩

/-- The next configuration and its table. -/
abbrev Prepared := Config × RoutingTable

/-- The integrations of a receiver under the current global settings. -/
def build (s : Coordinator) (receiver : Receiver) : Except AlertError (List Integration) :=
  RoutingTable.buildResolved s.snapshot.config.global s.registry s.link receiver

/-- A new receiver that no route names becomes the receiver of the root route. -/
def prepareAdd (s : Coordinator) (receiver : Receiver) : Except AlertError Prepared := do
  let config := s.snapshot.config
  if receiver.name = "" then throw (.badInput .unnamedReceiver)
  if s.snapshot.table.contains receiver.name then throw (.duplicateName receiver.name)
  let table ← s.snapshot.table.add receiver.name (← s.build receiver)
  let root := if config.route.references receiver.name then none else some receiver.name
  let (route, table) ← table.withRoute config.route root
  pure ({ config with receivers := config.receivers ++ [receiver], route := route }, table)

/-- The receivers with `receiver` in place of the first one of its name, or else at the end. -/
def replaceReceiver (receiver : Receiver) : List Receiver → List Receiver
  | [] => [receiver]
  | r :: rs => if r.name = receiver.name then receiver :: rs else r :: replaceReceiver receiver rs

def prepareEdit (s : Coordinator) (receiver : Receiver) : Except AlertError Prepared := do
  let config := s.snapshot.config
  if !s.snapshot.table.contains receiver.name then throw (.unknownReceiver receiver.name)
  let table ← s.snapshot.table.replace receiver.name (← s.build receiver)
  let (route, table) ← table.withRoute config.route none
  pure ({ config with receivers := replaceReceiver receiver config.receivers, route := route },
    table)

/-- Routes may go on naming a deleted receiver. -/
def prepareDelete (s : Coordinator) (name : String) : Except AlertError Prepared :=
  (s.snapshot.table.delete name).map fun (_, table) =>
    let config := s.snapshot.config
    ({ config with receivers := config.receivers.filter (·.name != name) }, table)

def prepareUpdate (s : Coordinator) (config : Config) : Except AlertError Prepared :=
  config.validate.bind fun _ =>
    (RoutingTable.ofConfig config s.registry s.link).map fun table => (config, table)

/-- Prepares a request on a copy of the current snapshot. -/
def prepare (s : Coordinator) : ReconfigRequest → Except AlertError Prepared
  | .add receiver => s.prepareAdd receiver
  | .edit receiver => s.prepareEdit receiver
  | .delete name => s.prepareDelete name
  | .update config => s.prepareUpdate config

/-- Enters a state of the pipeline. -/
def enter (s : Coordinator) (state : PipelineState) : Coordinator := { s with state }

/-- Tells the dispatcher something. -/
def tell (s : Coordinator) (call : DispatcherCall) : Coordinator :=
  { s with calls := s.calls ++ [call] }

/-- The dispatcher begins to run if it has been started. -/
def settle (s : Coordinator) : Coordinator :=
  if s.starting then { s.tell .run with starting := false } else s

/-- Tells the dispatcher to stop and waits for the end of its run. -/
def stopDispatcher (s : Coordinator) : Coordinator := (s.tell .stop).settle

/-- From now on the next snapshot is the published one. -/
def advance (s : Coordinator) (next : Prepared) : Coordinator :=
  { s with snapshot := ⟨s.snapshot.version + 1, next.1, next.2⟩ }

/-- Has the dispatcher go on with the published snapshot. -/
def install (s : Coordinator) : Coordinator := s.tell (.install s.snapshot.version)

/-- Starts the dispatcher. -/
def launch (s : Coordinator) : Coordinator := { s with starting := true }

/-- Publishes the next snapshot, installs it in the stopped dispatcher and starts it. -/
def publish (s : Coordinator) (next : Prepared) : Coordinator :=
  ((s.enter .reconfiguring).stopDispatcher.advance next).install.launch.enter .running

/-- Handles a request; a stopped coordinator handles none. -/
def handle (s : Coordinator) (request : ReconfigRequest) : Except AlertError Unit × Coordinator :=
  if s.state = .stopped then (.error (.internal .coordinatorStopped), s)
  else match s.prepare request with
    | .ok next => (.ok (), s.publish next)
    | .error e => (.error e, s)

/-- Handles requests that wait one behind the other; gives their answers. -/
def handleAll (s : Coordinator) :
    List ReconfigRequest → List (Except AlertError Unit) × Coordinator
  | [] => ([], s)
  | request :: rest =>
    let (answer, s) := s.handle request
    let (answers, s) := handleAll s rest
    (answer :: answers, s)

/-- Stops the dispatcher for good. -/
def shutdown (s : Coordinator) : Coordinator :=
  if s.state = .stopped then s else s.stopDispatcher.enter .stopped

end Coordinator

end AlertRouter
