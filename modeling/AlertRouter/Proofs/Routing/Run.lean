import AlertRouter.Proofs.Outcome
import AlertRouter.Routing.Coordinator

/-! # Runs of the coordinator

A run starts from some coordinator and goes on with requests, with a shutdown at any time, and with
the dispatcher beginning to run at any time after it was started.  Its history has the requests
with their answers.

`Coordinator.handle_cases` lists what can become of a request.  What holds at the start and is kept
by a published snapshot, by `settle` and by `shutdown` holds in the whole run (`Run.invariant`). -/

namespace AlertRouter

/-- The configuration of one receiver, to which everything goes. -/
def Config.ofReceiver (receiver : Receiver) : Config :=
  { (default : Config) with route := .ofReceiver receiver.name, receivers := [receiver] }

/-- The receiver that a request brings, which is given back when it has been accepted. -/
def ReconfigRequest.receiver? : ReconfigRequest → Option Receiver
  | add receiver | edit receiver => some receiver
  | delete _ | update _ => none

/-- A request and its answer. -/
abbrev Answered := ReconfigRequest × Except AlertError Unit

namespace Coordinator

variable {s s' s'' : Coordinator} {request : ReconfigRequest} {next : Prepared}

/-! ### What is left as it was -/

@[simp] theorem settle_snapshot : s.settle.snapshot = s.snapshot := by
  unfold settle
  split <;> rfl

@[simp] theorem settle_registry : s.settle.registry = s.registry := by
  unfold settle
  split <;> rfl

@[simp] theorem settle_link : s.settle.link = s.link := by
  unfold settle
  split <;> rfl

@[simp] theorem settle_state : s.settle.state = s.state := by
  unfold settle
  split <;> rfl

@[simp] theorem settle_starting : s.settle.starting = false := by
  unfold settle
  split
  · rfl
  · next h => simpa using h

theorem settle_calls : s.settle.calls = if s.starting then s.calls ++ [.run] else s.calls := by
  unfold settle
  split <;> rfl

theorem settle_of_not_starting (h : s.starting = false) : s.settle = s := by
  rw [settle, if_neg (by simp [h])]

@[simp] theorem settle_settle : s.settle.settle = s.settle :=
  settle_of_not_starting settle_starting

theorem settle_enter (state : PipelineState) :
    (s.enter state).settle = s.settle.enter state := by
  unfold settle
  split
  · next h => rw [if_pos (show s.starting = true from h)]; rfl
  · next h => rw [if_neg (show ¬ s.starting = true from h)]

@[simp] theorem stopDispatcher_snapshot : s.stopDispatcher.snapshot = s.snapshot :=
  settle_snapshot

@[simp] theorem shutdown_snapshot : s.shutdown.snapshot = s.snapshot := by
  unfold shutdown
  split
  · rfl
  · exact settle_snapshot

@[simp] theorem publish_snapshot :
    (s.publish next).snapshot = ⟨s.snapshot.version + 1, next.1, next.2⟩ := by
  change Snapshot.mk ((s.enter .reconfiguring).stopDispatcher.snapshot.version + 1) _ _ = _
  rw [stopDispatcher_snapshot]
  rfl

/-- The requests are prepared with the published snapshot and what the coordinator builds with. -/
theorem prepare_congr (hsnapshot : s.snapshot = s'.snapshot) (hregistry : s.registry = s'.registry)
    (hlink : s.link = s'.link) : s.prepare request = s'.prepare request := by
  cases request <;>
    simp only [prepare, prepareAdd, prepareEdit, prepareDelete, prepareUpdate, build, hsnapshot,
      hregistry, hlink]

/-! ### Requests -/

/-- A stopped coordinator refuses a request, a request that cannot be prepared is refused, and for
any other the next snapshot is published. -/
theorem handle_cases (s : Coordinator) (request : ReconfigRequest) :
    (s.state = .stopped ∧ s.handle request = (.error (.internal .coordinatorStopped), s)) ∨
    (s.state ≠ .stopped ∧ ∃ e, s.prepare request = .error e ∧ s.handle request = (.error e, s)) ∨
    (s.state ≠ .stopped ∧ ∃ next, s.prepare request = .ok next ∧
      s.handle request = (.ok (), s.publish next)) := by
  unfold handle
  by_cases hs : s.state = .stopped
  · exact .inl ⟨hs, if_pos hs⟩
  · rw [if_neg hs]
    cases hp : s.prepare request with
    | error e => exact .inr (.inl ⟨hs, e, rfl, rfl⟩)
    | ok next => exact .inr (.inr ⟨hs, next, rfl, rfl⟩)

/-- **A refused request changes nothing.** -/
theorem handle_of_error {e : AlertError} (h : (s.handle request).1 = .error e) :
    (s.handle request).2 = s := by
  rcases s.handle_cases request with ⟨-, heq⟩ | ⟨-, e', -, heq⟩ | ⟨-, next, -, heq⟩
  · rw [heq]
  · rw [heq]
  · rw [heq] at h
    cases h

/-! ### Runs -/

/-- `s.Run history s'`: the coordinator goes from `s` to `s'` with these requests and answers. -/
inductive Run (s : Coordinator) : List Answered → Coordinator → Prop
  | refl : Run s [] s
  | request {history : List Answered} {s' : Coordinator} (h : Run s history s')
      (request : ReconfigRequest) :
      Run s (history ++ [(request, (s'.handle request).1)]) (s'.handle request).2
  | settle {history : List Answered} {s' : Coordinator} (h : Run s history s') :
      Run s history s'.settle
  | shutdown {history : List Answered} {s' : Coordinator} (h : Run s history s') :
      Run s history s'.shutdown

/-- What every single step keeps holds at the end of the run. -/
theorem Run.invariant {P : Coordinator → Prop} {history : List Answered} (h : s.Run history s')
    (hstart : P s)
    (hpublish : ∀ s request next, P s → s.prepare request = .ok next → P (s.publish next))
    (hsettle : ∀ s, P s → P s.settle) (hshutdown : ∀ s, P s → P s.shutdown) : P s' := by
  induction h with
  | refl => exact hstart
  | @request history s' _ request ih =>
      rcases s'.handle_cases request with ⟨-, heq⟩ | ⟨-, e, -, heq⟩ | ⟨-, next, hnext, heq⟩
      · rwa [heq]
      · rwa [heq]
      · rw [heq]
        exact hpublish s' request next ih hnext
  | settle _ ih => exact hsettle _ ih
  | shutdown _ ih => exact hshutdown _ ih

theorem Run.trans {history history' : List Answered} (h : s.Run history s')
    (h' : s'.Run history' s'') : s.Run (history ++ history') s'' := by
  induction h' with
  | refl => simpa using h
  | request _ request ih =>
      rw [← List.append_assoc]
      exact ih.request request
  | settle _ ih => exact ih.settle
  | shutdown _ ih => exact ih.shutdown

/-- Requests that wait one behind the other make a run. -/
theorem Run.handleAll (s : Coordinator) (requests : List ReconfigRequest) :
    s.Run (requests.zip (s.handleAll requests).1) (s.handleAll requests).2 := by
  induction requests generalizing s with
  | nil => exact .refl
  | cons request rest ih => exact (Run.refl.request request).trans (ih (s.handle request).2)

end Coordinator

end AlertRouter
