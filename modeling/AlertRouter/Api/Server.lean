import AlertRouter.Api.Parameters
import AlertRouter.Api.Reply
import AlertRouter.Api.Resource
import AlertRouter.Delivery.Dispatcher
import AlertRouter.Routing.Coordinator
import AlertRouter.Status

/-! # The server

All parts of a running instance, and its responses to requests.  A response comes with the server as
it is afterwards: what is not carried out leaves no trace, except that the valid alerts of a batch
are taken in and counted even if others of the batch are refused.

The dispatcher makes its rounds in turns of its own (`settle`, `tick`), never within a request. -/

namespace AlertRouter.Api

/-- A running instance: the coordinator, the stores with the dispatcher, the counters, the cluster
if there is one, and when the instance was started. -/
structure Server where
  coordinator : Coordinator
  hub : Hub
  tally : Tally
  cluster : Option Cluster
  started : Instant

namespace Server

/-- Starts an instance at `now`, with all kinds of integrations. -/
def start (config : Config) (link : Option Url) (retention : Option Nat) (now : Instant) :
    Except AlertError Server :=
  (Coordinator.start config .standard link).map fun c =>
    ⟨c, (Hub.empty retention).install c.snapshot, .empty, none, now⟩

def snapshot (s : Server) : Snapshot := s.coordinator.snapshot

/-- A round of the dispatcher at `now`, unless it has been stopped, with the deliveries to make. -/
def tick (s : Server) (now : Instant) : Server × List Delivery :=
  if s.coordinator.state = .stopped then (s, [])
  else
    let (hub, deliveries) := s.hub.tick now
    ({ s with hub, coordinator := s.coordinator.settle }, deliveries)

/-- The first round of a dispatcher that has been started. -/
def settle (s : Server) (now : Instant) : Server × List Delivery :=
  if s.coordinator.starting then s.tick now else (s, [])

/-- Stops the dispatcher for good. -/
def stop (s : Server) : Server := { s with coordinator := s.coordinator.shutdown }

/-! ### Operations -/

/-- A value that is sent as JSON. -/
def readBody {α : Type} (c : Codec α) (body : String) : Except AlertError α :=
  (Json.decode c body).mapError fun e => .badInput (.body e)

/-- What names a receiver to be deleted. -/
def nameSchema : Schema String where
  name := "DeleteReceiverRequest"
  blank := ""
  fields := [.must "name" .text id fun v _ => v]

def status (s : Server) : Status := ⟨s.snapshot.config, s.started, s.cluster⟩

def receiverNames (s : Server) : Doc := .list (s.snapshot.config.receiverNames.map .text)

/-- Has the coordinator handle a request, whose answer is then `content`.  The dispatcher goes on
with the new snapshot if there is one. -/
def reconfigure (s : Server) (request : ReconfigRequest) (content : Doc) : Reply × Server :=
  match s.coordinator.handle request with
  | (.ok _, c) => (.data content, { s with coordinator := c, hub := s.hub.install c.snapshot })
  | (.error e, c) => (.failed e, { s with coordinator := c })

/-- The size of the longest body that is read, in bytes. -/
def bodyLimit : Nat := 2097152

/-- Goes on with the value in a body. -/
def withBody {α : Type} (s : Server) (c : Codec α) (body : String) (f : α → Reply × Server) :
    Reply × Server :=
  if bodyLimit < body.utf8ByteSize then (.bodyTooLong, s)
  else match readBody c body with
    | .ok a => f a
    | .error e => (.failed e, s)

def listAlerts (s : Server) (now : Instant) (ps : Parameters) : Except AlertError Doc :=
  ps.alertQuery.bind fun q =>
    let stream := AlertStore.stream s.hub.alerts
    (q.list s.hub.marker s.snapshot.table.receiversFor now none stream).map fun views =>
      .list (views.map AlertView.schema.write)

def postAlerts (s : Server) (now : Instant) (posted : List Alert.Posted) : Reply × Server :=
  let (answer, hub, tally) := s.hub.ingest s.tally posted s.snapshot.config.global.timeout now
  (.ofOutcome answer, { s with hub, tally })

def silenceDoc (now : Instant) (x : Silence) : Doc := (Silence.codec now).write x

def listSilences (s : Server) (now : Instant) (ps : Parameters) : Except AlertError Doc :=
  ps.filter.bind fun ms =>
    (s.hub.silences.ask fun store => Silence.listing store.toList ms now).map fun xs =>
      .list (xs.map (silenceDoc now))

def postSilence (s : Server) (now : Instant) (x : Silence) : Reply × Server :=
  let (answer, silences) := SilenceStore.create s.hub.silences x now
  (.ofResult (answer.map fun id => .record [("silenceId", .text id)]),
    { s with hub := { s.hub with silences } })

def showSilence (s : Server) (now : Instant) (id : String) : Except AlertError Doc :=
  (s.hub.silences.ask fun store => store.find id now).map (silenceDoc now)

def expireSilence (s : Server) (now : Instant) (id : String) : Reply × Server :=
  let (answer, silences) := s.hub.silences.change fun store => store.expire id now
  (.ofOutcome answer, { s with hub := { s.hub with silences } })

/-- The id in a path without its encoding. -/
def decodedId? (id : String) : Option String :=
  (Utf8.decode? (Percent.decode id.toList)).map String.ofList

/-- Goes on with the parameters of a query, none of the known ones being given twice. -/
def withParameters (s : Server) (known : List String) (query : String)
    (f : Parameters → Except AlertError Doc) : Reply × Server :=
  let ps := Http.Query.pairs query
  match Http.Query.repeated? known [] ps with
  | some name => (.repeatedParameter name, s)
  | none => (.ofResult (f ps), s)

/-- Carries out an operation at `now`, with the query and the body of a request. -/
def run (s : Server) (now : Instant) (query body : String) : Operation → Reply × Server
  | .showStatus => (.data s.status.doc, s)
  | .listReceivers => (.data s.receiverNames, s)
  | .addReceiver => s.withBody Receiver.schema.codec body fun r =>
    s.reconfigure (.add r) (Receiver.schema.write r)
  | .editReceiver => s.withBody Receiver.schema.codec body fun r =>
    s.reconfigure (.edit r) (Receiver.schema.write r)
  | .deleteReceiver => s.withBody nameSchema.codec body fun name =>
    s.reconfigure (.delete name) (.text "receiver deleted successfully")
  | .listAlerts => s.withParameters Parameters.ofAlerts query (s.listAlerts now)
  | .postAlerts => s.withBody (.list Alert.Posted.schema.codec) body (s.postAlerts now)
  | .listSilences => s.withParameters Parameters.ofSilences query (s.listSilences now)
  | .postSilence => s.withBody (Silence.codec now) body (s.postSilence now)
  | .showSilence id => match decodedId? id with
    | some id => (.ofResult (s.showSilence now id), s)
    | none => (.illegibleId, s)
  | .expireSilence id => match decodedId? id with
    | some id => s.expireSilence now id
    | none => (.illegibleId, s)
  | .showCounters => (.counters (String.intercalate "\n" (s.tally.lines ++ [""])), s)

/-- The response to a request at `now`, and the server afterwards. -/
def respond (s : Server) (now : Instant) (r : Http.Request) : Http.Response × Server :=
  match Resource.ofPath? r.path with
  | none => (.bare (if r.method = .options then 200 else 404), s)
  | some resource =>
    if r.method = .options then ({ Http.Response.bare 200 with allow := resource.methods }, s)
    else match resource.operation? r.method with
      | none => ({ Http.Response.bare 405 with allow := resource.methods }, s)
      | some operation =>
        let (reply, s) := s.run now r.query r.body operation
        let response := reply.response Tally.contentType
        (if r.method = .head then response.withoutBody else response, s)

end Server

end AlertRouter.Api
