import AlertRouter.Proofs.Delivery.Pass
import AlertRouter.Proofs.Routing.Run
import Mathlib.Logic.Relation

/-! # The pipeline step by step

`Coordinator.handle` takes a request from its beginning to its end.  Here the coordinator and the
runs of the dispatcher that it starts are parties that take turns.

* The coordinator goes through the stages of a change: it cancels the token that is current, waits
  for the end of the run that it holds, publishes the next snapshot, installs it, makes a token and
  starts another run.  A shutdown ends after the wait.
* A run may begin at any time after it was started.  It takes the token that is current when it
  begins.  Then it listens: it may begin a round as long as its token is not cancelled, and it ends
  once the token is cancelled.  A round drops alerts that are due, reads the installed snapshot and
  visits one alert after another.  A run that has begun may also break down.
* The stores change at any time.

`Step` is one turn of any party, `Reachable` what can be reached by turns.  A pass that nothing
comes between does what `Hub.dispatch` does (`steps_dispatch`). -/

namespace AlertRouter

/-- A request and what it was prepared to. -/
abbrev Change := ReconfigRequest × Coordinator.Prepared

/-- What the coordinator is going to do next; a shutdown is the stop for no change. -/
inductive Stage where
  | waiting
  | stopping (change : Option Change)
  | joining (change : Option Change)
  | publishing (change : Change)
  | installing (request : ReconfigRequest)
  | renewing (request : ReconfigRequest)
  | launching (request : ReconfigRequest)
  | resuming (request : ReconfigRequest)
  | closing
  | closed

namespace Stage

/-- The state of the pipeline that is shown meanwhile. -/
def state : Stage → PipelineState
  | waiting | stopping none | joining none | closing => .running
  | closed => .stopped
  | _ => .reconfiguring

/-- After the wait for a run and before the start of another one. -/
inductive Quiet : Stage → Prop
  | publishing (change : Change) : Quiet (publishing change)
  | installing (request : ReconfigRequest) : Quiet (installing request)
  | renewing (request : ReconfigRequest) : Quiet (renewing request)
  | launching (request : ReconfigRequest) : Quiet (launching request)
  | closing : Quiet closing
  | closed : Quiet closed

end Stage

/-- How far a run of the dispatcher has come.  A pass has its time, the snapshot that it read, and
what is left of the stream of alerts. -/
inductive Task where
  | spawned
  | begun
  | listening (token : Nat)
  | due (token : Nat) (now : Instant)
  | swept (token : Nat) (now : Instant)
  | passing (token : Nat) (now : Instant) (snapshot : Option Snapshot)
      (rest : List (Except AlertError Alert))
  | finished

/-- The coordinator and how far it has come; the dispatcher with the stores; the number of the
current token, and those that are cancelled; all runs that were ever started, and which one the
coordinator holds; the requests that were answered. -/
structure Pipeline where
  coordinator : Coordinator
  stage : Stage
  hub : Hub
  token : Nat
  cancelled : List Nat
  tasks : List Task
  held : Option Nat
  answered : List Answered

namespace Pipeline

/-- The first snapshot is installed and the first run is started. -/
def start (s : Coordinator) (hub : Hub) : Pipeline :=
  ⟨s, .waiting, hub.install s.snapshot, 0, [], [.spawned], some 0, []⟩

/-- `Turn m t t' c h`: in `m`, a run that has come to `t` may go on to `t'`, leaving behind the
coordinator `c` and the hub `h`. -/
inductive Turn (m : Pipeline) : Task → Task → Coordinator → Hub → Prop
  | begin : Turn m .spawned .begun m.coordinator.settle m.hub
  | capture : Turn m .begun (.listening m.token) m.coordinator m.hub
  /-- A round begins. -/
  | tick {token : Nat} (now : Instant) (h : token ∉ m.cancelled) :
      Turn m (.listening token) (.due token now) m.coordinator m.hub
  | leave {token : Nat} (h : token ∈ m.cancelled) :
      Turn m (.listening token) .finished m.coordinator m.hub
  | sweep {token : Nat} {now : Instant} :
      Turn m (.due token now) (.swept token now) m.coordinator (m.hub.collect now).1
  /-- A pass begins; the alerts come in any order. -/
  | read {token : Nat} {now : Instant} {stream : List (Except AlertError Alert)}
      (h : stream.Perm (AlertStore.stream m.hub.alerts)) :
      Turn m (.swept token now) (.passing token now m.hub.dispatcher.snapshot stream)
        m.coordinator m.hub
  | visit {token : Nat} {now : Instant} {s : Snapshot} {a : Alert}
      {rest : List (Except AlertError Alert)} :
      Turn m (.passing token now (some s) (.ok a :: rest)) (.passing token now (some s) rest)
        m.coordinator (m.hub.visit s now a)
  /-- A pass ends with the stream, with an alert that cannot be read, or for want of a snapshot. -/
  | rest {token : Nat} {now : Instant} {snapshot : Option Snapshot}
      {rest : List (Except AlertError Alert)}
      (h : snapshot = none ∨ Dispatcher.readable rest = []) :
      Turn m (.passing token now snapshot rest) (.listening token) m.coordinator m.hub
  | fail {t : Task} (h : t ≠ .spawned) (h' : t ≠ .finished) :
      Turn m t .finished m.coordinator m.hub

/-- Run `i` goes on to `t`, leaving behind `c` and `h`. -/
def move (m : Pipeline) (i : Nat) (t : Task) (c : Coordinator) (h : Hub) : Pipeline :=
  { m with tasks := m.tasks.set i t, coordinator := c, hub := h }

/-- One turn of the coordinator, of a run, or of whoever changes the stores. -/
inductive Step (m : Pipeline) : Pipeline → Prop
  /-- A request is refused at once, also by a closed pipeline. -/
  | refuse {request : ReconfigRequest} {e : AlertError}
      (hstage : m.stage = .waiting ∨ m.stage = .closed)
      (h : (m.coordinator.handle request).1 = .error e) :
      Step m { m with
        coordinator := (m.coordinator.handle request).2
        answered := m.answered ++ [(request, .error e)] }
  | accept {request : ReconfigRequest} {next : Coordinator.Prepared} (hstage : m.stage = .waiting)
      (h : m.coordinator.prepare request = .ok next) :
      Step m { m with
        stage := .stopping (some (request, next))
        coordinator := m.coordinator.enter .reconfiguring }
  | close (hstage : m.stage = .waiting) : Step m { m with stage := .stopping none }
  | stop {change : Option Change} (hstage : m.stage = .stopping change) :
      Step m { m with
        stage := .joining change
        coordinator := m.coordinator.tell .stop
        cancelled := m.token :: m.cancelled }
  /-- The run that is held has ended. -/
  | join {change : Option Change} (hstage : m.stage = .joining change)
      (hheld : ∀ i, m.held = some i → m.tasks[i]? = some .finished) :
      Step m { m with stage := change.elim .closing .publishing, held := none }
  | publish {request : ReconfigRequest} {next : Coordinator.Prepared}
      (hstage : m.stage = .publishing (request, next)) :
      Step m { m with stage := .installing request, coordinator := m.coordinator.advance next }
  | install {request : ReconfigRequest} (hstage : m.stage = .installing request) :
      Step m { m with
        stage := .renewing request
        coordinator := m.coordinator.install
        hub := m.hub.install m.coordinator.snapshot }
  | renew {request : ReconfigRequest} (hstage : m.stage = .renewing request) :
      Step m { m with stage := .launching request, token := m.token + 1 }
  | launch {request : ReconfigRequest} (hstage : m.stage = .launching request) :
      Step m { m with
        stage := .resuming request
        coordinator := m.coordinator.launch
        tasks := m.tasks ++ [.spawned]
        held := some m.tasks.length }
  | resume {request : ReconfigRequest} (hstage : m.stage = .resuming request) :
      Step m { m with
        stage := .waiting
        coordinator := m.coordinator.enter .running
        answered := m.answered ++ [(request, .ok ())] }
  | finish (hstage : m.stage = .closing) :
      Step m { m with stage := .closed, coordinator := m.coordinator.enter .stopped }
  | task {i : Nat} {t t' : Task} {c : Coordinator} {h : Hub} (hi : m.tasks[i]? = some t)
      (hturn : Turn m t t' c h) : Step m (m.move i t' c h)
  | outside (alerts : Remote AlertStore) (silences : Remote SilenceStore) :
      Step m { m with hub := { m.hub with alerts, silences } }

/-- What can be reached from the start with `s` and `hub`. -/
inductive Reachable (s : Coordinator) (hub : Hub) : Pipeline → Prop
  | start : Reachable s hub (start s hub)
  | step {m m' : Pipeline} (h : Reachable s hub m) (hstep : Step m m') : Reachable s hub m'

/-! ### A pass that nothing comes between -/

/-- Any number of turns. -/
abbrev Steps : Pipeline → Pipeline → Prop := Relation.ReflTransGen Step

theorem move_move (m : Pipeline) (i : Nat) (t t' : Task) (c c' : Coordinator) (h h' : Hub) :
    (m.move i t c h).move i t' c' h' = m.move i t' c' h' := by
  simp [move]

theorem getElem?_move {m : Pipeline} {i : Nat} {t : Task} (hi : m.tasks[i]? = some t) (t' : Task)
    (c : Coordinator) (h : Hub) : (m.move i t' c h).tasks[i]? = some t' := by
  obtain ⟨hlt, -⟩ := List.getElem?_eq_some_iff.mp hi
  exact List.getElem?_set_self hlt

theorem steps_visit {m : Pipeline} {i token : Nat} {now : Instant} {s : Snapshot}
    {alerts : List Alert} {rest : List (Except AlertError Alert)}
    (hi : m.tasks[i]? = some (.passing token now (some s) (alerts.map .ok ++ rest))) :
    Steps m (m.move i (.passing token now (some s) rest) m.coordinator
      (alerts.foldl (Hub.visit s now) m.hub)) := by
  induction alerts generalizing m with
  | nil =>
      obtain ⟨hlt, hget⟩ := List.getElem?_eq_some_iff.mp hi
      have hset : m.tasks.set i (.passing token now (some s) rest) = m.tasks := by
        rw [← List.nil_append rest, ← List.map_nil, ← hget, List.set_getElem_self]
      unfold move
      rw [hset]
      exact .refl
  | cons a alerts ih =>
      refine .head (.task hi .visit) ?_
      have hnext := ih (getElem?_move hi _ m.coordinator (m.hub.visit s now a))
      rwa [move_move] at hnext

/-- **A pass that nothing comes between is a pass of `Hub.dispatch`.** -/
theorem steps_dispatch {m : Pipeline} {i token : Nat} {now : Instant} {s : Snapshot}
    (hi : m.tasks[i]? = some (.swept token now)) (hs : m.hub.dispatcher.snapshot = some s) :
    Steps m (m.move i (.listening token) m.coordinator (m.hub.dispatch now).1) := by
  obtain ⟨rest, hstream, hrest⟩ :=
    Dispatcher.exists_readable_append (AlertStore.stream m.hub.alerts)
  have hread := Step.task hi (Turn.read (.refl (AlertStore.stream m.hub.alerts)))
  rw [hs, hstream] at hread
  have hread' := getElem?_move hi (.passing token now (some s)
    ((Dispatcher.readable (AlertStore.stream m.hub.alerts)).map .ok ++ rest)) m.coordinator m.hub
  have hvisit := steps_visit hread'
  rw [move_move] at hvisit
  have hend := Step.task (getElem?_move hi (.passing token now (some s) rest) m.coordinator
    (m.hub.dispatch now).1) (Turn.rest (.inr hrest))
  rw [move_move] at hend
  rw [Hub.dispatch_eq_foldl_visit hs] at hend ⊢
  exact (Relation.ReflTransGen.single hread).trans (hvisit.tail hend)

end Pipeline

end AlertRouter
