import AlertRouter.Api.Server
import AlertRouter.Options
import Std.Http.Server
import Std.Time.DateTime.Timestamp

/-! # The program

Reads a configuration, then answers requests and lets the dispatcher make its rounds. -/

namespace AlertRouter.Program

/-- The present time. -/
def now : IO Instant := do
  let t := (← Std.Time.Timestamp.now).toNanosecondsSinceUnixEpoch.val
  return ⟨t / Instant.second, (t % Instant.second).toNat⟩

def report (text : String) : IO Unit := do (← IO.getStderr).putStrLn text

/-- Tells about notifications. -/
def announce (deliveries : List Delivery) : IO Unit :=
  deliveries.forM fun d =>
    report ("notify " ++ d.integration.text ++ ": " ++ d.alert.fingerprint.text)

/-- Reads the configuration in a file. -/
def load (path : String) : IO (Except AlertError Config) := do
  try
    return Config.ofYaml (← IO.FS.readFile path)
  catch e => return .error (.badConfig (.unreadable path (toString e)))

/-- Answers one request; a dispatcher that has been started by it makes its first round. -/
def answer (server : IO.Ref Api.Server) (r : Http.Request) : IO Http.Response := do
  let now ← now
  let (response, deliveries) ← server.modifyGet fun s =>
    let (response, s) := s.respond now r
    let (s, deliveries) := s.settle now
    ((response, deliveries), s)
  announce deliveries
  return response

/-- The request in a message. -/
def request (m : Std.Http.Request Std.Http.Body.Stream) : Std.Async.ContextAsync Http.Request := do
  let body : ByteArray ← m.body.readAll
  return .ofTarget (.ofName (toString m.line.method)) (toString m.line.uri)
    (String.ofList (Utf8.decodeLossy body.toList))

/-- The message with a response. -/
def message (r : Http.Response) : Std.Async.ContextAsync (Std.Http.Response Std.Http.Body.Any) := do
  let status := (Std.Http.Status.ofCode none r.status.toUInt16).getD .internalServerError
  let builder := r.headers.foldl (fun b (name, value) => (b.header? name value).getD b)
    (Std.Http.Response.withStatus status)
  let m ← builder.fromBytes r.body.toUTF8
  return { m with body := .ofBody m.body }

def handler (server : IO.Ref Api.Server) : Std.Http.Server.StatelessHandler :=
  Std.Http.Server.Handler.ofFn fun m => do message (← answer server (← request m))

/-- Lets the dispatcher make its rounds. -/
partial def rounds (server : IO.Ref Api.Server) (interval : Nat) : IO Unit := do
  IO.sleep (interval * 1000).toUInt32
  let now ← now
  announce (← server.modifyGet fun s => let (s, deliveries) := s.tick now; (deliveries, s))
  rounds server interval

/-- Answers requests at an address for good. -/
def serve (o : Options) (s : Api.Server) : IO UInt32 := do
  match Std.Net.IPv4Addr.ofString o.address with
  | none =>
    report ("failed to bind to " ++ o.address)
    return 1
  | some addr =>
    let server ← IO.mkRef s
    let _ ← (Std.Http.Server.serve (.v4 ⟨addr, o.port.toUInt16⟩) (handler server)).block
    rounds server o.intervalSeconds
    return 0

/-- Runs the program with its options. -/
def run (o : Options) : IO UInt32 := do
  let now ← now
  match ← load o.configFile with
  | .error e =>
    report e.message
    return 1
  | .ok config =>
    if o.checkOnly then
      IO.println ("configuration is valid: " ++ o.configFile)
      return 0
    else match Api.Server.start config o.externalUrl (some o.retention) now with
      | .error e =>
        report e.message
        return 1
      | .ok s => serve o (s.settle now).1

end AlertRouter.Program

def main (args : List String) : IO UInt32 := do
  let configFile := (← IO.getEnv "ALERTMANAGER_CONFIG").getD "alertmanager.yml"
  match AlertRouter.Options.ofArgs (.standard configFile) args with
  | .ok o => AlertRouter.Program.run o
  | .error e =>
    AlertRouter.Program.report e.message
    return 2
