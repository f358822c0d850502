import AlertRouter.Proofs.Routing.Rebuild

/-! # What the dispatcher is told

The snapshots are installed one after another, each once.  Between two of them lies one run: it was
started after the first and was told to stop before the second.  A run begins when its turn comes,
and this may be after it was told to stop (`Ended`).  It is never later than that, for the
coordinator waits for its end.

`Rounds n calls` says that `calls` lead in this way to the snapshot `n`.  In every run of the
coordinator they lead to the published one, whose number counts the successful requests
(`Run.orderly`, `Run.version_eq`). -/

namespace AlertRouter

/-- The calls for the end of a run, which begins before or after it is told to stop. -/
inductive Ended : List DispatcherCall → Prop
  | timely : Ended [.run, .stop]
  | late : Ended [.stop, .run]

/-- The calls up to the installation of the snapshot `n`. -/
inductive Rounds : Nat → List DispatcherCall → Prop
  | first : Rounds 1 [.install 1]
  | next {n : Nat} {calls ended : List DispatcherCall} (h : Rounds n calls) (hended : Ended ended) :
      Rounds (n + 1) (calls ++ ended ++ [.install (n + 1)])

/-- How many requests were successful. -/
def successes (history : List Answered) : Nat := history.countP (·.2.isOk)

theorem successes_concat_ok (history : List Answered) (request : ReconfigRequest) :
    successes (history ++ [(request, .ok ())]) = successes history + 1 := by
  simp [successes, Except.isOk, Except.toBool]

theorem successes_concat_error (history : List Answered) (request : ReconfigRequest)
    (e : AlertError) : successes (history ++ [(request, .error e)]) = successes history := by
  simp [successes, Except.isOk, Except.toBool]

namespace Coordinator

variable {s s' s₀ : Coordinator} {next : Prepared} {history : List Answered}

/-- What the dispatcher was told is in order: it goes on with the published snapshot, or has ended
for good. -/
inductive Orderly (s : Coordinator) : Prop
  | running {calls : List DispatcherCall} (hstate : s.state = .running)
      (hrounds : Rounds s.snapshot.version calls)
      (hcalls : s.calls = if s.starting then calls else calls ++ [.run])
  | stopped {calls ended : List DispatcherCall} (hstate : s.state = .stopped)
      (hstarting : s.starting = false) (hrounds : Rounds s.snapshot.version calls)
      (hended : Ended ended) (hcalls : s.calls = calls ++ ended)

/-- After the wait a run has begun and has been told to stop. -/
theorem stopDispatcher_calls {calls : List DispatcherCall}
    (hcalls : s.calls = if s.starting then calls else calls ++ [.run]) :
    ∃ ended, Ended ended ∧ s.stopDispatcher.calls = calls ++ ended := by
  unfold stopDispatcher
  rw [settle_calls]
  cases hs : s.starting with
  | true =>
      refine ⟨_, .late, ?_⟩
      simp [tell, hs, hcalls]
  | false =>
      refine ⟨_, .timely, ?_⟩
      simp [tell, hs, hcalls]

theorem Orderly.start {c : Config} {registry : Registry} {link : Option Url}
    (h : start c registry link = .ok s) : Orderly s := by
  obtain ⟨-, table, -, rfl⟩ := start_eq_ok_iff.mp h
  exact .running rfl .first rfl

theorem Orderly.settle (h : Orderly s) : Orderly s.settle := by
  cases h with
  | running hstate hrounds hcalls =>
      refine .running (settle_state.trans hstate) (by rwa [settle_snapshot]) ?_
      rw [settle_calls, settle_starting, hcalls]
      split <;> rfl
  | stopped hstate hstarting hrounds hended hcalls =>
      refine .stopped (settle_state.trans hstate) settle_starting (by rwa [settle_snapshot]) hended
        ?_
      rw [settle_calls, hstarting, hcalls]
      rfl

theorem Orderly.publish (h : Orderly s) (hs : s.state ≠ .stopped) : Orderly (s.publish next) := by
  cases h with
  | running hstate hrounds hcalls =>
      obtain ⟨ended, hended, hstop⟩ := stopDispatcher_calls (s := s.enter .reconfiguring) hcalls
      refine .running rfl (by rw [publish_snapshot]; exact hrounds.next hended) ?_
      change (s.enter .reconfiguring).stopDispatcher.calls ++ [.install
        ((s.enter .reconfiguring).stopDispatcher.snapshot.version + 1)] = _
      rw [hstop, stopDispatcher_snapshot]
      rfl
  | stopped hstate => exact absurd hstate hs

theorem Orderly.shutdown (h : Orderly s) : Orderly s.shutdown := by
  unfold Coordinator.shutdown
  split
  · exact h
  · next hs =>
      cases h with
      | running hstate hrounds hcalls =>
          obtain ⟨ended, hended, hstop⟩ := stopDispatcher_calls hcalls
          refine .stopped rfl settle_starting ?_ hended hstop
          rw [enter, stopDispatcher_snapshot]
          exact hrounds
      | stopped hstate => exact absurd hstate hs

/-- **In every run the dispatcher is told what it must be told, in order.** -/
theorem Run.orderly {c : Config} {registry : Registry} {link : Option Url}
    (hstart : start c registry link = .ok s₀) (h : s₀.Run history s) : Orderly s := by
  induction h with
  | refl => exact .start hstart
  | @request history s _ request ih =>
      rcases s.handle_cases request with ⟨-, heq⟩ | ⟨-, e, -, heq⟩ | ⟨hs, next, -, heq⟩
      · rwa [heq]
      · rwa [heq]
      · rw [heq]
        exact ih.publish hs
  | settle _ ih => exact ih.settle
  | shutdown _ ih => exact ih.shutdown

/-- **The published version counts the successful requests.** -/
theorem Run.version_eq (h : s₀.Run history s) :
    s.snapshot.version = s₀.snapshot.version + successes history := by
  induction h with
  | refl => rfl
  | @request history s _ request ih =>
      rcases s.handle_cases request with ⟨-, heq⟩ | ⟨-, e, -, heq⟩ | ⟨-, next, -, heq⟩
      · rw [heq, successes_concat_error, ih]
      · rw [heq, successes_concat_error, ih]
      · rw [heq, successes_concat_ok, publish_snapshot, ← Nat.add_assoc, ← ih]
  | settle _ ih => rw [settle_snapshot, ih]
  | shutdown _ ih => rw [shutdown_snapshot, ih]

/-! ### Runs that begin at once -/

/-- The calls of `n` changes if each run begins as soon as it is started. -/
def prompt : Nat → List DispatcherCall
  | 0 => [.install 1, .run]
  | n + 1 => prompt n ++ [.stop, .install (n + 2), .run]

/-- The run has begun, like all those before it. -/
structure Prompt (s : Coordinator) (n : Nat) : Prop where
  state : s.state = .running
  starting : s.starting = false
  version : s.snapshot.version = n + 1
  calls : s.calls = prompt n

theorem Prompt.publish {n : Nat} (h : Prompt s n) : Prompt (s.publish next).settle (n + 1) := by
  have hstop : (s.enter .reconfiguring).stopDispatcher = (s.enter .reconfiguring).tell .stop :=
    settle_of_not_starting h.starting
  refine ⟨settle_state, settle_starting, ?_, ?_⟩
  · rw [settle_snapshot, publish_snapshot]
    exact congrArg (· + 1) h.version
  · rw [settle_calls]
    change (s.enter .reconfiguring).stopDispatcher.calls ++ [.install
      ((s.enter .reconfiguring).stopDispatcher.snapshot.version + 1)] ++ [.run] = _
    rw [hstop]
    change s.calls ++ [.stop] ++ [.install (s.snapshot.version + 1)] ++ [.run] = _
    rw [h.calls, h.version, prompt]
    simp

/-- If each request comes when the dispatcher runs, the calls are those of prompt runs. -/
theorem foldl_handle_settle_prompt {c : Config} {registry : Registry} {link : Option Url}
    (hstart : start c registry link = .ok s₀) (requests : List ReconfigRequest) :
    ∃ n, Prompt (requests.foldl (fun s request => (s.handle request).2.settle) s₀.settle) n := by
  have hsettle : Prompt s₀.settle 0 := by
    obtain ⟨-, table, -, rfl⟩ := start_eq_ok_iff.mp hstart
    exact ⟨rfl, rfl, rfl, rfl⟩
  generalize s₀.settle = s at hsettle
  generalize 0 = n at hsettle
  induction requests generalizing s n with
  | nil => exact ⟨n, hsettle⟩
  | cons request requests ih =>
      rw [List.foldl_cons]
      rcases s.handle_cases request with ⟨hs, -⟩ | ⟨-, e, -, heq⟩ | ⟨-, next, -, heq⟩
      · rw [hsettle.state] at hs
        cases hs
      · rw [heq, settle_of_not_starting hsettle.starting]
        exact ih s n hsettle
      · rw [heq]
        exact ih _ _ hsettle.publish

/-- Of two requests that wait one behind the other, the second has the dispatcher stopped before the
run for the first one has begun: the calls are not those of prompt runs. -/
theorem calls_ne_prompt : ∃ s₀, start (.ofReceiver (.named "a")) .standard none = .ok s₀ ∧
    let (answers, s) := s₀.settle.handleAll [.add (.named "b"), .add (.named "c")]
    answers = [.ok (), .ok ()] ∧
      s.settle.calls =
        [.install 1, .run, .stop, .install 2, .stop, .run, .install 3, .run] ∧
      s.settle.calls ≠ prompt 2 := by
  obtain ⟨s₀, hstart⟩ := exists_start
  refine ⟨s₀, hstart, ?_⟩
  cases hstart
  exact ⟨rfl, rfl, by decide⟩

end Coordinator

end AlertRouter
