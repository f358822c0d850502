import AlertRouter.Proofs.Pipeline.Exclusion
import AlertRouter.Proofs.Routing.Calls

/-! # The pipeline does what the coordinator does

`Coordinator.handle` and `Coordinator.shutdown` do at one go what the pipeline does stage by stage,
while runs begin and rounds are made in between.  `Follows` relates the two: in every stage, what
the coordinator is about to do leads to a coordinator that a run of handled requests leads to.  For
this it matters only whether a run begins before or after it is told to stop.

So whatever holds at the end of the runs of the coordinator holds of a pipeline that waits for a
request or is closed (`protocol`). -/

namespace AlertRouter

namespace Pipeline

variable {m m' : Pipeline} {s₀ : Coordinator} {hub : Hub}

/-- What the coordinator is about to do leads to the end of a run from `s₀`. -/
def Follows (s₀ : Coordinator) (m : Pipeline) : Prop :=
  match m.stage with
  | .waiting | .stopping none | .closed => s₀.Run m.answered m.coordinator
  | .stopping (some (request, next)) =>
    ∃ s, s₀.Run m.answered s ∧ s.state = .running ∧ s.prepare request = .ok next ∧
      m.coordinator = s.enter .reconfiguring
  | .joining none | .closing => s₀.Run m.answered (m.coordinator.settle.enter .stopped)
  | .joining (some (request, next)) | .publishing (request, next) =>
    s₀.Run (m.answered ++ [(request, .ok ())])
      ((m.coordinator.settle.advance next).install.launch.enter .running)
  | .installing request =>
    s₀.Run (m.answered ++ [(request, .ok ())]) (m.coordinator.install.launch.enter .running)
  | .renewing request | .launching request =>
    s₀.Run (m.answered ++ [(request, .ok ())]) (m.coordinator.launch.enter .running)
  | .resuming request =>
    s₀.Run (m.answered ++ [(request, .ok ())]) (m.coordinator.enter .running)

/-- All runs have begun once they have ended. -/
theorem Inv.settle_eq_self (h : Inv m) (hall : ∀ t ∈ m.tasks, t = .finished) :
    m.coordinator.settle = m.coordinator := by
  refine Coordinator.settle_of_not_starting ?_
  rw [← Bool.not_eq_true, h.starting]
  intro hspawned
  cases hall _ hspawned

/-- A run may begin in any stage in which there is one. -/
theorem Follows.settle (h : Follows s₀ m) (hquiet : ¬ m.stage.Quiet) {tasks : List Task}
    {h' : Hub} : Follows s₀ { m with tasks, coordinator := m.coordinator.settle, hub := h' } := by
  obtain ⟨c, stage, hub, token, cancelled, ts, held, answered⟩ := m
  cases stage with
  | waiting => exact Coordinator.Run.settle h
  | stopping change =>
      cases change with
      | none => exact Coordinator.Run.settle h
      | some change =>
          obtain ⟨request, next⟩ := change
          obtain ⟨s, hrun, hstate, hnext, heq⟩ := h
          refine ⟨s.settle, hrun.settle, Coordinator.settle_state.trans hstate, ?_, ?_⟩
          · rw [← hnext]
            exact Coordinator.prepare_congr Coordinator.settle_snapshot Coordinator.settle_registry
              Coordinator.settle_link
          · change c.settle = _
            rw [show c = s.enter .reconfiguring from heq, Coordinator.settle_enter]
  | joining change =>
      cases change with
      | none =>
          change s₀.Run answered (c.settle.settle.enter .stopped)
          rw [Coordinator.settle_settle]
          exact h
      | some change =>
          change s₀.Run (answered ++ [(change.1, .ok ())])
            ((c.settle.settle.advance change.2).install.launch.enter .running)
          rw [Coordinator.settle_settle]
          exact h
  | publishing change => exact absurd (.publishing change) hquiet
  | installing request => exact absurd (.installing request) hquiet
  | renewing request => exact absurd (.renewing request) hquiet
  | launching request => exact absurd (.launching request) hquiet
  | resuming request =>
      change s₀.Run (answered ++ [(request, .ok ())]) (c.settle.enter .running)
      rw [← Coordinator.settle_enter]
      exact Coordinator.Run.settle h
  | closing => exact absurd .closing hquiet
  | closed => exact absurd .closed hquiet

theorem Follows.move {i : Nat} {t t' : Task} {c : Coordinator} {h : Hub} (hf : Follows s₀ m)
    (hinv : Inv m) (hi : m.tasks[i]? = some t) (hturn : Turn m t t' c h) :
    Follows s₀ (m.move i t' c h) := by
  obtain ⟨halive, hcoordinator, -, -, -⟩ := hturn.frame
  rcases hcoordinator with ⟨-, rfl⟩ | ⟨-, rfl⟩
  · exact hf.settle (hinv.not_quiet hi halive)
  · exact hf

theorem Follows.start : Follows s₀ (start s₀ hub) := Coordinator.Run.refl

/-- **Every turn leads on to the end of a run of handled requests.** -/
theorem Follows.step (hf : Follows s₀ m) (hinv : Inv m) (hstep : Step m m') : Follows s₀ m' := by
  have hstate := hinv.state
  cases hstep with
  | @refuse request e hstage he =>
      have hrun : s₀.Run m.answered m.coordinator := by
        rcases hstage with hstage | hstage
        · simpa only [Follows, hstage] using hf
        · simpa only [Follows, hstage] using hf
      have hnext := hrun.request request
      rw [he] at hnext
      rcases hstage with hstage | hstage
      · simpa only [Follows, hstage] using hnext
      · simpa only [Follows, hstage] using hnext
  | @accept request next hstage hp =>
      simp only [Follows, hstage] at hf
      rw [hstage] at hstate
      exact ⟨m.coordinator, hf, hstate, hp, rfl⟩
  | close hstage => simpa only [Follows, hstage] using hf
  | @stop change hstage =>
      rw [hstage] at hstate
      cases change with
      | none =>
          simp only [Follows, hstage] at hf
          have hclosed := hf.shutdown
          rw [Coordinator.shutdown, if_neg (by rw [hstate]; nofun)] at hclosed
          exact hclosed
      | some change =>
          obtain ⟨request, next⟩ := change
          simp only [Follows, hstage] at hf
          obtain ⟨s, hrun, hs, hnext, heq⟩ := hf
          have hhandle : s.handle request = (.ok (), s.publish next) := by
            rw [Coordinator.handle, if_neg (by rw [hs]; nofun), hnext]
          have hpublished := hrun.request request
          rw [hhandle] at hpublished
          simp only [Follows, heq]
          exact hpublished
  | @join change hstage hheld =>
      cases change with
      | none =>
          simp only [Follows, hstage] at hf
          exact hf
      | some change =>
          simp only [Follows, hstage] at hf
          exact hf
  | @publish request next hstage =>
      have hsettle := hinv.settle_eq_self (hinv.quiet (hstage ▸ .publishing (request, next)))
      simp only [Follows, hstage, hsettle] at hf
      exact hf
  | install hstage => simpa only [Follows, hstage] using hf
  | renew hstage => simpa only [Follows, hstage] using hf
  | launch hstage => simpa only [Follows, hstage] using hf
  | resume hstage => simpa only [Follows, hstage] using hf
  | finish hstage =>
      have hsettle := hinv.settle_eq_self (hinv.quiet (hstage ▸ .closing))
      simp only [Follows, hstage, hsettle] at hf
      exact hf
  | task hi hturn => exact hf.move hinv hi hturn
  | outside alerts silences => exact hf

theorem Reachable.follows {c : Config} {registry : Registry} {link : Option Url}
    (hstart : Coordinator.start c registry link = .ok s₀) (h : Reachable s₀ hub m) :
    Follows s₀ m := by
  induction h with
  | start => exact .start
  | step h hstep ih => exact ih.step (h.inv hstart) hstep

/-! ### The protocol -/

/-- The requests that are decided: those that were answered, and one whose snapshot is published
already. -/
def decided (m : Pipeline) : List Answered :=
  match m.stage with
  | .installing request | .renewing request | .launching request | .resuming request =>
    m.answered ++ [(request, .ok ())]
  | _ => m.answered

theorem version_eq_of_pending {c : Coordinator} {request : ReconfigRequest}
    {next : Coordinator.Prepared} {answered : List Answered}
    (h : s₀.Run (answered ++ [(request, .ok ())])
      ((c.settle.advance next).install.launch.enter .running)) :
    c.snapshot.version = s₀.snapshot.version + successes answered := by
  have hversion := h.version_eq
  change c.settle.snapshot.version + 1 = _ at hversion
  rw [Coordinator.settle_snapshot, successes_concat_ok] at hversion
  omega

theorem version_eq_of_ending {c : Coordinator} {answered : List Answered}
    (h : s₀.Run answered (c.settle.enter .stopped)) :
    c.snapshot.version = s₀.snapshot.version + successes answered := by
  have hversion := h.version_eq
  change c.settle.snapshot.version = _ at hversion
  rwa [Coordinator.settle_snapshot] at hversion

/-- The published version counts the successful requests in every stage. -/
theorem Follows.version_eq (h : Follows s₀ m) :
    m.coordinator.snapshot.version = s₀.snapshot.version + successes m.decided := by
  obtain ⟨c, stage, hub, token, cancelled, tasks, held, answered⟩ := m
  cases stage with
  | waiting => exact Coordinator.Run.version_eq h
  | stopping change =>
      cases change with
      | none => exact Coordinator.Run.version_eq h
      | some change =>
          obtain ⟨s, hrun, -, -, heq⟩ := h
          change c.snapshot.version = _
          rw [show c = s.enter .reconfiguring from heq]
          exact hrun.version_eq
  | joining change =>
      cases change with
      | none => exact version_eq_of_ending h
      | some change => exact version_eq_of_pending h
  | publishing change => exact version_eq_of_pending h
  | installing request =>
      have hversion := Coordinator.Run.version_eq h
      exact hversion
  | renewing request =>
      have hversion := Coordinator.Run.version_eq h
      exact hversion
  | launching request =>
      have hversion := Coordinator.Run.version_eq h
      exact hversion
  | resuming request =>
      have hversion := Coordinator.Run.version_eq h
      exact hversion
  | closing => exact version_eq_of_ending h
  | closed => exact Coordinator.Run.version_eq h

/-- A turn that gives an answer with an error does nothing else. -/
theorem Step.eq_of_error {request : ReconfigRequest} {e : AlertError} (hstep : Step m m')
    (h : m'.answered = m.answered ++ [(request, .error e)]) :
    m' = { m with answered := m'.answered } := by
  cases hstep with
  | refuse hstage he => rw [Coordinator.handle_of_error he]
  | resume hstage => simp at h
  | _ => exact absurd h (by simp [move])

/-- **What is told to the dispatcher, answered and shown.**

* The published version counts the successful requests, at any time.
* While the pipeline waits for a request, the dispatcher was told in order what leads to the
  published snapshot, and after that to run, unless its run has not begun.
* When the pipeline is closed, the dispatcher was told in the end to run and to stop, and every
  request is refused.
* A request that is answered with an error changes nothing.
* Whenever the pipeline is shown as running, the published snapshot is installed. -/
theorem protocol {c : Config} {registry : Registry} {link : Option Url}
    (hstart : Coordinator.start c registry link = .ok s₀) (h : Reachable s₀ hub m) :
    m.coordinator.snapshot.version = 1 + successes m.decided ∧
    (m.stage = .waiting → ∃ calls, Rounds m.coordinator.snapshot.version calls ∧
      (.spawned ∈ m.tasks ∧ m.coordinator.calls = calls ∨
        .spawned ∉ m.tasks ∧ m.coordinator.calls = calls ++ [.run])) ∧
    (m.stage = .closed → (∃ calls ended, Rounds m.coordinator.snapshot.version calls ∧
        Ended ended ∧ m.coordinator.calls = calls ++ ended) ∧
      ∀ request, (m.coordinator.handle request).1 = .error (.internal .coordinatorStopped)) ∧
    (∀ m' request e, Step m m' → m'.answered = m.answered ++ [(request, .error e)] →
      m' = { m with answered := m'.answered }) ∧
    (m.coordinator.state = .running →
      m.hub.dispatcher.snapshot = some m.coordinator.snapshot) := by
  have hinv := h.inv hstart
  have hf := h.follows hstart
  refine ⟨?_, ?_, ?_, ?_, ?_⟩
  · rw [hf.version_eq]
    obtain ⟨-, table, -, rfl⟩ := Coordinator.start_eq_ok_iff.mp hstart
    rfl
  · intro hstage
    simp only [Follows, hstage] at hf
    cases hf.orderly hstart with
    | running hstate hrounds hcalls =>
        refine ⟨_, hrounds, ?_⟩
        rw [hcalls]
        split
        · next hs => exact .inl ⟨hinv.starting.mp hs, rfl⟩
        · next hs => exact .inr ⟨fun hmem => hs (hinv.starting.mpr hmem), rfl⟩
    | stopped hstate =>
        rw [hinv.state, hstage] at hstate
        cases hstate
  · intro hstage
    have hstate : m.coordinator.state = .stopped := by rw [hinv.state, hstage]; rfl
    refine ⟨?_, fun request => by rw [Coordinator.handle, if_pos hstate]⟩
    simp only [Follows, hstage] at hf
    cases hf.orderly hstart with
    | running hstate' => rw [hstate] at hstate'; cases hstate'
    | stopped _ _ hrounds hended hcalls => exact ⟨_, _, hrounds, hended, hcalls⟩
  · intro m' request e hstep herror
    exact hstep.eq_of_error herror
  · intro hstate
    refine hinv.installed fun request hstage => ?_
    rw [hinv.state, hstage] at hstate
    cases hstate

/-- A pipeline that has been shut down after one change. -/
theorem protocol_closed : ∃ s₀ m,
    Coordinator.start (.ofReceiver (.named "a")) .standard none = .ok s₀ ∧
    Reachable s₀ (.empty none) m ∧ m.stage = .closed ∧
    m.coordinator.calls = [.install 1, .run, .stop, .install 2, .stop, .run] ∧
    m.coordinator.snapshot.version = 1 + successes m.decided := by
  obtain ⟨s₀, hstart⟩ := Coordinator.exists_start
  obtain ⟨next, hnext⟩ : ∃ next, s₀.prepare (.add (.named "b")) = .ok next := by
    cases hstart
    exact ⟨_, rfl⟩
  have h₀ : Reachable s₀ (.empty none) (start s₀ (.empty none)) := .start
  have h₁ := (h₀.step (.accept rfl hnext)).step (.task (i := 0) rfl .begin)
  have h₂ := (h₁.step (.task (i := 0) rfl (.fail nofun nofun))).step (.stop rfl)
  have h₃ := (h₂.step (.join rfl (by rintro _ ⟨⟩; rfl))).step (.publish rfl)
  have h₄ := ((h₃.step (.install rfl)).step (.renew rfl)).step (.launch rfl)
  have h₅ := ((h₄.step (.resume rfl)).step (.close rfl)).step (.stop rfl)
  have h₆ := (h₅.step (.task (i := 1) rfl .begin)).step (.task (i := 1) rfl (.fail nofun nofun))
  have h₇ := (h₆.step (.join rfl (by rintro _ ⟨⟩; rfl))).step (.finish rfl)
  refine ⟨s₀, _, hstart, h₇, rfl, ?_, (protocol hstart h₇).1⟩
  cases hstart
  rfl

end Pipeline

end AlertRouter
