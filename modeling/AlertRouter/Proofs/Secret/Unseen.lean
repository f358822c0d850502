import AlertRouter.Proofs.Routing.Run
import AlertRouter.Proofs.Secret.Written

/-! # Secrets cannot be seen

What can be seen of a coordinator is all that it holds but its configuration, and the documents and
texts that are written of the configuration (`Coordinator.View`).  A masked coordinator looks the
same, and it does the same when it is asked the same with the secrets masked
(`Coordinator.handle_masked`).  So two coordinators whose configurations and requests differ in the
contents of secrets alone cannot be told apart (`Coordinator.secrets_unseen`). -/

namespace AlertRouter

def ReconfigRequest.masked : ReconfigRequest → ReconfigRequest
  | add receiver => add receiver.masked
  | edit receiver => edit receiver.masked
  | delete name => delete name
  | update config => update config.masked

def Snapshot.masked (s : Snapshot) : Snapshot := { s with config := s.config.masked }

namespace Coordinator

variable {s : Coordinator} {request : ReconfigRequest} {receiver : Receiver} {next : Prepared}

def masked (s : Coordinator) : Coordinator := { s with snapshot := s.snapshot.masked }

/-- The masked form of what has been prepared. -/
def Prepared.masked (next : Prepared) : Prepared := (next.1.masked, next.2)

/-! ### Masked coordinators do the same -/

theorem start_masked (c : Config) (link : Option Url) :
    start c.masked .standard link = (start c .standard link).map masked := by
  rw [start, start, Config.validate_masked, Snapshot.initial, Snapshot.initial,
    RoutingTable.ofConfig_masked]
  cases c.validate with
  | error e => rfl
  | ok _ =>
      cases RoutingTable.ofConfig c .standard link with
      | error e => rfl
      | ok table => rfl

theorem build_masked (h : s.registry = .standard) (receiver : Receiver) :
    s.masked.build receiver.masked = s.build receiver := by
  have hmasked : s.masked.registry = .standard := h
  rw [build, build, h, hmasked]
  exact RoutingTable.buildResolved_masked receiver

theorem replaceReceiver_masked (receiver : Receiver) (rs : List Receiver) :
    replaceReceiver receiver.masked (rs.map .masked) =
      (replaceReceiver receiver rs).map .masked := by
  induction rs with
  | nil => rfl
  | cons r rs ih =>
      rw [List.map_cons, replaceReceiver, replaceReceiver, ih, Receiver.name_masked,
        Receiver.name_masked]
      split <;> rfl

theorem prepare_masked (h : s.registry = .standard) (request : ReconfigRequest) :
    s.masked.prepare request.masked = (s.prepare request).map Prepared.masked := by
  -- Masked or not, the same checks are made; the receivers in the end are all that differs.
  cases request with
  | add receiver =>
      have hreceivers : s.masked.snapshot.config.receivers ++ [receiver.masked] =
          (s.snapshot.config.receivers ++ [receiver]).map .masked := by
        rw [List.map_append]
        rfl
      show s.masked.prepareAdd receiver.masked = (s.prepareAdd receiver).map Prepared.masked
      simp only [prepareAdd, Except.bind_def, Except.pure_def, Except.throw_def,
        Receiver.name_masked, build_masked h, hreceivers, Except.bind_map,
        apply_ite (Except.map Prepared.masked), Except.ok_map]
      rfl
  | edit receiver =>
      have hreceivers : replaceReceiver receiver.masked s.masked.snapshot.config.receivers =
          (replaceReceiver receiver s.snapshot.config.receivers).map .masked :=
        replaceReceiver_masked receiver _
      show s.masked.prepareEdit receiver.masked = (s.prepareEdit receiver).map Prepared.masked
      simp only [prepareEdit, Except.bind_def, Except.pure_def, Except.throw_def,
        Receiver.name_masked, build_masked h, hreceivers, Except.bind_map,
        apply_ite (Except.map Prepared.masked), Except.ok_map]
      rfl
  | delete name =>
      have hreceivers : s.masked.snapshot.config.receivers.filter (·.name != name) =
          (s.snapshot.config.receivers.filter (·.name != name)).map .masked := List.filter_map
      have htable : s.masked.snapshot.table = s.snapshot.table := rfl
      show s.masked.prepareDelete name = (s.prepareDelete name).map Prepared.masked
      simp only [prepareDelete, hreceivers, htable]
      cases s.snapshot.table.delete name with
      | error e => rfl
      | ok p => rfl
  | update config =>
      have htable : RoutingTable.ofConfig config.masked s.masked.registry s.masked.link =
          RoutingTable.ofConfig config s.registry s.link := by
        rw [h, show s.masked.registry = .standard from h]
        exact RoutingTable.ofConfig_masked config
      show s.masked.prepareUpdate config.masked = (s.prepareUpdate config).map Prepared.masked
      rw [prepareUpdate, prepareUpdate, Config.validate_masked, htable, Except.bind_map]
      cases RoutingTable.ofConfig config s.registry s.link with
      | error e => rfl
      | ok table => rfl

theorem settle_masked : s.masked.settle = s.settle.masked := by
  unfold settle
  show (if s.starting then _ else _) = _
  split <;> rfl

theorem stopDispatcher_masked : s.masked.stopDispatcher = s.stopDispatcher.masked :=
  settle_masked (s := s.tell .stop)

theorem publish_masked : s.masked.publish next.masked = (s.publish next).masked := by
  have hstop : (s.masked.enter .reconfiguring).stopDispatcher =
      (s.enter .reconfiguring).stopDispatcher.masked :=
    stopDispatcher_masked (s := s.enter .reconfiguring)
  rw [publish, hstop]
  rfl

theorem shutdown_masked : s.masked.shutdown = s.shutdown.masked := by
  rw [shutdown, shutdown, stopDispatcher_masked]
  show (if s.state = .stopped then _ else _) = _
  split <;> rfl

/-- A masked request is answered in the same way. -/
theorem handle_masked (h : s.registry = .standard) (request : ReconfigRequest) :
    s.masked.handle request.masked = ((s.handle request).1, (s.handle request).2.masked) := by
  rw [handle, handle, prepare_masked h]
  show (if s.state = .stopped then _ else _) = _
  split
  · rfl
  · cases s.prepare request with
    | error e => rfl
    | ok next => exact Prod.ext rfl publish_masked

/-! ### What can be seen -/

/-- What happens to a coordinator. -/
inductive Event where
  | request (request : ReconfigRequest)
  | settle
  | shutdown

def Event.masked : Event → Event
  | .request r => .request r.masked
  | .settle => .settle
  | .shutdown => .shutdown

/-- What can be seen of a coordinator: everything but its configuration, and all that is written of
this. -/
structure View where
  version : Nat
  table : RoutingTable
  state : PipelineState
  starting : Bool
  calls : List DispatcherCall
  json : Doc
  yaml : String
  status : Instant → Option Cluster → Doc

def view (s : Coordinator) : View where
  version := s.snapshot.version
  table := s.snapshot.table
  state := s.state
  starting := s.starting
  calls := s.calls
  json := Config.schema.write s.snapshot.config
  yaml := s.snapshot.config.yaml
  status started cluster := (Status.mk s.snapshot.config started cluster).doc

/-- What a request is answered with: the error, or the receiver that has been added or edited as it
is written. -/
abbrev Reply := Except AlertError (Option Doc)

/-- What comes of an event, with the reply to a request. -/
def react (s : Coordinator) : Event → Option Reply × Coordinator
  | .request request =>
    let (answer, s) := s.handle request
    (some (answer.map fun _ => request.receiver?.map Receiver.schema.write), s)
  | .settle => (none, s.settle)
  | .shutdown => (none, s.shutdown)

/-- What can be seen in the course of some events. -/
def trace (s : Coordinator) : List Event → List (Option Reply × View)
  | [] => []
  | e :: es => ((s.react e).1, (s.react e).2.view) :: trace (s.react e).2 es

@[simp] theorem view_masked : s.masked.view = s.view := by
  simp only [view, masked, Snapshot.masked, Config.write_masked, Config.yaml_masked,
    Status.doc_masked]

theorem receiver?_masked (request : ReconfigRequest) :
    request.masked.receiver?.map Receiver.schema.write =
      request.receiver?.map Receiver.schema.write := by
  cases request with
  | add receiver => exact congrArg some receiver.write_masked
  | edit receiver => exact congrArg some receiver.write_masked
  | delete name => rfl
  | update config => rfl

theorem react_masked (h : s.registry = .standard) (e : Event) :
    s.masked.react e.masked = ((s.react e).1, (s.react e).2.masked) := by
  cases e with
  | request request =>
      simp only [Event.masked, react, handle_masked h, receiver?_masked]
  | settle => exact Prod.ext rfl settle_masked
  | shutdown => exact Prod.ext rfl shutdown_masked

theorem react_registry (e : Event) : (s.react e).2.registry = s.registry := by
  cases e with
  | request request =>
      rcases s.handle_cases request with ⟨-, heq⟩ | ⟨-, e, -, heq⟩ | ⟨-, next, -, heq⟩
      · simp only [react, heq]
      · simp only [react, heq]
      · simp only [react, heq]
        exact settle_registry
  | settle => exact settle_registry
  | shutdown =>
      show s.shutdown.registry = s.registry
      unfold shutdown
      split
      · rfl
      · exact settle_registry

/-- Masking changes nothing of what can be seen, event by event. -/
theorem trace_masked (h : s.registry = .standard) (es : List Event) :
    s.masked.trace (es.map .masked) = s.trace es := by
  induction es generalizing s with
  | nil => rfl
  | cons e es ih =>
      rw [List.map_cons, trace, trace, react_masked h, view_masked]
      exact congrArg _ (ih ((react_registry e).trans h))

/-- Nothing that can be seen, from the start on, depends on more than the masked form. -/
theorem start_trace_masked (c : Config) (es : List Event) (link : Option Url) :
    (start c.masked .standard link).map (fun s => (s.view, s.trace (es.map .masked))) =
      (start c .standard link).map fun s => (s.view, s.trace es) := by
  rw [start_masked]
  cases hs : start c .standard link with
  | error e => rfl
  | ok s =>
      have hregistry : s.registry = .standard := by
        obtain ⟨_, -, hs⟩ := Except.bind_eq_ok_iff.mp hs
        obtain ⟨snapshot, -, rfl⟩ := Except.map_eq_ok_iff.mp hs
        rfl
      simp only [Except.ok_map, view_masked, trace_masked hregistry]

/-- **Secrets cannot be seen.**  Let two configurations be the same up to the contents of their
secrets, and two courses of events the same up to the contents of the secrets in their requests.
Then the two coordinators that start with them start or fail to start in the same way, every request
is answered in the same way, with the same error or the same document, and all that can be seen of
the coordinators is the same from the start on: the integrations, the published configurations as
documents and as texts, and the status. -/
theorem secrets_unseen {c c' : Config} {es es' : List Event} {link : Option Url}
    (hconfig : c.masked = c'.masked) (hevents : es.map Event.masked = es'.map .masked) :
    (start c .standard link).map (fun s => (s.view, s.trace es)) =
      (start c' .standard link).map fun s => (s.view, s.trace es') := by
  rw [← start_trace_masked c, hconfig, hevents, start_trace_masked]

/-- Two keys of a receiver, which is replaced by one with a secret URL. -/
theorem secrets_unseen_keys :
    let receiver (key : String) : Receiver :=
      { Receiver.named "a" with pushovers := [⟨true, none, ⟨key⟩, ⟨key⟩, "", ""⟩] }
    let edited (host : String) : Receiver := { Receiver.named "a" with
      slacks := [⟨false, none, some ⟨GlobalConfig.https host []⟩, "", "#a", "", "", ""⟩] }
    let shown (key host : String) :=
      (start (.ofReceiver (receiver key)) .standard none).map fun s =>
        (s.view, s.trace [.settle, .request (.edit (edited host)), .shutdown])
    Config.ofReceiver (receiver "k") ≠ .ofReceiver (receiver "secret") ∧
      (shown "k" "h").toOption.isSome = true ∧ shown "k" "h" = shown "secret" "h.example" := by
  intro receiver edited shown
  refine ⟨by decide, rfl, secrets_unseen ?_ ?_⟩
  · decide
  · rfl

end Coordinator

end AlertRouter
