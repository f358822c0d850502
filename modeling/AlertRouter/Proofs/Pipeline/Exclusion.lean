import AlertRouter.Proofs.Pipeline.Basic
import AlertRouter.Proofs.Routing.Rebuild

/-! # Passes and changes exclude one another

Whatever the order of turns, at most the run that the coordinator holds is unfinished: the
coordinator starts a run only after it has waited for the end of the one before.  A run may begin so
late that the token it takes is cancelled already.  It cannot take the one that is made for the next
snapshot, for that is made only after the wait.

`Inv` says this stage by stage, `Inv.step` that every turn keeps it, and
`passes_exclude_changes` what follows for passes. -/

namespace AlertRouter

namespace Pipeline

variable {m m' : Pipeline} {s₀ : Coordinator} {hub : Hub}

/-- What holds in every stage. -/
structure Inv (m : Pipeline) : Prop where
  /-- A run that has not ended is the one that is held. -/
  held : ∀ i t, m.tasks[i]? = some t → t ≠ .finished → m.held = some i
  /-- While a change is published and installed, all runs have ended. -/
  quiet : m.stage.Quiet → ∀ t ∈ m.tasks, t = .finished
  /-- The coordinator expects a run as long as there is one that has not begun. -/
  starting : m.coordinator.starting = true ↔ .spawned ∈ m.tasks
  /-- The published snapshot is installed, except when it has just been published. -/
  installed : (∀ request, m.stage ≠ .installing request) →
    m.hub.dispatcher.snapshot = some m.coordinator.snapshot
  /-- A pass works with the published snapshot. -/
  current : ∀ token now s rest, .passing token now s rest ∈ m.tasks →
    s = some m.coordinator.snapshot
  /-- The state that is shown is that of the stage. -/
  state : m.coordinator.state = m.stage.state

theorem Inv.start {c : Config} {registry : Registry} {link : Option Url}
    (hstart : Coordinator.start c registry link = .ok s₀) : Inv (start s₀ hub) := by
  obtain ⟨-, table, -, rfl⟩ := Coordinator.start_eq_ok_iff.mp hstart
  unfold Pipeline.start
  refine ⟨?_, ?_, ?_, ?_, ?_, ?_⟩
  · intro i t hi _
    obtain ⟨hlt, -⟩ := List.getElem?_eq_some_iff.mp hi
    have hi : i = 0 := by simpa using hlt
    rw [hi]
  · rintro ⟨⟩
  · simp
  · intro _
    rfl
  · intro token now s rest h
    simp at h
  · rfl

/-! ### Turns of a run -/

/-- A run that has ended goes on with nothing; a turn of another changes of the coordinator at most
that it has begun to run, and of the dispatcher not the snapshot; a pass goes on with the snapshot
that it has read. -/
structure Turn.Frame (m : Pipeline) (t t' : Task) (c : Coordinator) (h : Hub) : Prop where
  alive : t ≠ .finished
  coordinator : t = .spawned ∧ c = m.coordinator.settle ∨ t ≠ .spawned ∧ c = m.coordinator
  begun : t' ≠ .spawned
  snapshot : h.dispatcher.snapshot = m.hub.dispatcher.snapshot
  pass : ∀ token now s rest, t' = .passing token now s rest →
    s = m.hub.dispatcher.snapshot ∨ ∃ rest', t = .passing token now s rest'

theorem Turn.frame {t t' : Task} {c : Coordinator} {h : Hub} (hturn : Turn m t t' c h) :
    Turn.Frame m t t' c h := by
  cases hturn with
  | begin => exact ⟨nofun, .inl ⟨rfl, rfl⟩, nofun, rfl, fun _ _ _ _ => nofun⟩
  | capture => exact ⟨nofun, .inr ⟨nofun, rfl⟩, nofun, rfl, fun _ _ _ _ => nofun⟩
  | tick => exact ⟨nofun, .inr ⟨nofun, rfl⟩, nofun, rfl, fun _ _ _ _ => nofun⟩
  | leave => exact ⟨nofun, .inr ⟨nofun, rfl⟩, nofun, rfl, fun _ _ _ _ => nofun⟩
  | sweep => exact ⟨nofun, .inr ⟨nofun, rfl⟩, nofun, rfl, fun _ _ _ _ => nofun⟩
  | read =>
      refine ⟨nofun, .inr ⟨nofun, rfl⟩, nofun, rfl, ?_⟩
      rintro _ _ _ _ ⟨⟩
      exact .inl rfl
  | visit =>
      refine ⟨nofun, .inr ⟨nofun, rfl⟩, nofun, rfl, ?_⟩
      rintro _ _ _ _ ⟨⟩
      exact .inr ⟨_, rfl⟩
  | rest => exact ⟨nofun, .inr ⟨nofun, rfl⟩, nofun, rfl, fun _ _ _ _ => nofun⟩
  | fail h h' => exact ⟨h', .inr ⟨h, rfl⟩, nofun, rfl, fun _ _ _ _ => nofun⟩

/-- While a run goes on, the coordinator is in none of the stages between two runs. -/
theorem Inv.not_quiet (h : Inv m) {i : Nat} {t : Task} (hi : m.tasks[i]? = some t)
    (ht : t ≠ .finished) : ¬ m.stage.Quiet := fun hquiet =>
  ht (h.quiet hquiet t (List.mem_of_getElem? hi))

/-- There is only one run that has not ended. -/
theorem Inv.eq_of_unfinished (h : Inv m) {i j : Nat} {t t' : Task} (hi : m.tasks[i]? = some t)
    (hj : m.tasks[j]? = some t') (ht : t ≠ .finished) (ht' : t' ≠ .finished) : i = j := by
  have hheld := h.held i t hi ht
  rw [h.held j t' hj ht'] at hheld
  exact (Option.some.inj hheld).symm

/-- A run that has not begun has not ended, so there is none next to one that goes on. -/
theorem Inv.eq_of_spawned (h : Inv m) {i j : Nat} {t : Task} (hi : m.tasks[i]? = some t)
    (ht : t ≠ .finished) (hj : m.tasks[j]? = some .spawned) : i = j :=
  h.eq_of_unfinished hi hj ht nofun

theorem Inv.eq_spawned (h : Inv m) {i : Nat} {t : Task} (hi : m.tasks[i]? = some t)
    (ht : t ≠ .finished) (hspawned : .spawned ∈ m.tasks) : t = .spawned := by
  obtain ⟨j, hj⟩ := List.mem_iff_getElem?.mp hspawned
  obtain rfl := h.eq_of_spawned hi ht hj
  rw [hi] at hj
  exact Option.some.inj hj

/-- After a turn of the run that goes on there is none that has not begun. -/
theorem Inv.spawned_notMem_move (h : Inv m) {i : Nat} {t t' : Task} (hi : m.tasks[i]? = some t)
    (ht : t ≠ .finished) (ht' : t' ≠ .spawned) (c : Coordinator) (h' : Hub) :
    .spawned ∉ (m.move i t' c h').tasks := by
  intro hspawned
  obtain ⟨j, hj⟩ := List.mem_iff_getElem?.mp hspawned
  by_cases hij : i = j
  · rw [← hij, getElem?_move hi t' c h'] at hj
    exact ht' (Option.some.inj hj)
  · rw [Pipeline.move, List.getElem?_set_ne hij] at hj
    exact hij (h.eq_of_spawned hi ht hj)

theorem Inv.move {i : Nat} {t t' : Task} {c : Coordinator} {h : Hub} (hinv : Inv m)
    (hi : m.tasks[i]? = some t) (hturn : Turn m t t' c h) : Inv (m.move i t' c h) := by
  obtain ⟨halive, hcoordinator, hbegun, hsnapshot, hpass⟩ := hturn.frame
  have hquiet := hinv.not_quiet hi halive
  have hinstalled : m.hub.dispatcher.snapshot = some m.coordinator.snapshot :=
    hinv.installed fun request hstage => hquiet (hstage ▸ .installing request)
  have hpublished : c.snapshot = m.coordinator.snapshot := by
    rcases hcoordinator with ⟨-, rfl⟩ | ⟨-, rfl⟩
    · exact Coordinator.settle_snapshot
    · rfl
  have hmem {u : Task} (hu : u ∈ (m.move i t' c h).tasks) : u = t' ∨ u ∈ m.tasks :=
    (List.mem_or_eq_of_mem_set hu).symm
  refine ⟨?_, ?_, ?_, ?_, ?_, ?_⟩
  · intro j u hj hu
    rcases Decidable.em (i = j) with rfl | hij
    · exact hinv.held i t hi halive
    · exact hinv.held j u (by rwa [Pipeline.move, List.getElem?_set_ne hij] at hj) hu
  · intro hq
    exact absurd hq hquiet
  · have hnone := hinv.spawned_notMem_move hi halive hbegun c h
    have hstarting : c.starting = false := by
      rcases hcoordinator with ⟨-, rfl⟩ | ⟨ht, rfl⟩
      · exact Coordinator.settle_starting
      · rw [← Bool.not_eq_true, hinv.starting]
        exact fun hspawned => ht (hinv.eq_spawned hi halive hspawned)
    simp only [hnone, iff_false, Bool.not_eq_true]
    exact hstarting
  · intro _
    exact hsnapshot.trans (hinstalled.trans (by rw [← hpublished]; rfl))
  · intro token now s rest hmem'
    change s = some c.snapshot
    rw [hpublished]
    rcases hmem hmem' with heq | hold
    · rcases hpass token now s rest heq.symm with rfl | ⟨rest', rfl⟩
      · exact hinstalled
      · exact hinv.current token now s rest' (List.mem_of_getElem? hi)
    · exact hinv.current token now s rest hold
  · rcases hcoordinator with ⟨-, rfl⟩ | ⟨-, rfl⟩
    · exact Coordinator.settle_state.trans hinv.state
    · exact hinv.state

/-! ### Turns of the coordinator -/

/-- While a run is held, the wait for its end is the wait for the end of all. -/
theorem Inv.all_finished (h : Inv m)
    (hheld : ∀ i, m.held = some i → m.tasks[i]? = some .finished) :
    ∀ t ∈ m.tasks, t = .finished := by
  intro t ht
  by_contra hne
  obtain ⟨i, hi⟩ := List.mem_iff_getElem?.mp ht
  have hfinished := hheld i (h.held i t hi hne)
  rw [hi] at hfinished
  exact hne (Option.some.inj hfinished)

/-- A turn of the coordinator that leaves the runs alone.  Another snapshot may be published only
when all runs have ended. -/
theorem Inv.advance {stage : Stage} {c : Coordinator} {h' : Hub} {token : Nat}
    {cancelled : List Nat} {answered : List Answered} (h : Inv m)
    (hquiet : stage.Quiet → m.stage.Quiet) (hstarting : c.starting = m.coordinator.starting)
    (hstate : c.state = stage.state)
    (hinstalled : (∀ request, stage ≠ .installing request) →
      h'.dispatcher.snapshot = some c.snapshot)
    (hpublished : c.snapshot = m.coordinator.snapshot ∨ m.stage.Quiet) :
    Inv { m with stage, coordinator := c, hub := h', token, cancelled, answered } := by
  refine ⟨h.held, fun hq => h.quiet (hquiet hq), ?_, hinstalled, ?_, hstate⟩
  · rw [← h.starting, ← hstarting]
  · intro token now s rest hmem
    rcases hpublished with heq | hq
    · change s = some c.snapshot
      rw [heq]
      exact h.current token now s rest hmem
    · cases h.quiet hq _ hmem

theorem Inv.join {change : Option Change} (h : Inv m) (hstage : m.stage = .joining change)
    (hheld : ∀ i, m.held = some i → m.tasks[i]? = some .finished) :
    Inv { m with stage := change.elim .closing .publishing, held := none } := by
  have hall := h.all_finished hheld
  refine ⟨?_, fun _ => hall, h.starting, fun _ => h.installed (by simp [hstage]), h.current, ?_⟩
  · intro i t hi ht
    exact absurd (hall t (List.mem_of_getElem? hi)) ht
  · refine h.state.trans ?_
    rw [hstage]
    cases change <;> rfl

theorem Inv.launch {request : ReconfigRequest} (h : Inv m)
    (hstage : m.stage = .launching request) :
    Inv { m with
      stage := .resuming request
      coordinator := m.coordinator.launch
      tasks := m.tasks ++ [.spawned]
      held := some m.tasks.length } := by
  have hall := h.quiet (hstage ▸ .launching request)
  refine ⟨?_, ?_, ?_, ?_, ?_, ?_⟩
  · intro i t hi ht
    rcases Nat.lt_or_ge i m.tasks.length with hlt | hge
    · rw [List.getElem?_append_left hlt] at hi
      exact absurd (hall t (List.mem_of_getElem? hi)) ht
    · obtain ⟨hlt, -⟩ := List.getElem?_eq_some_iff.mp hi
      rw [List.length_append, List.length_singleton] at hlt
      have heq : m.tasks.length = i := by omega
      rw [heq]
  · rintro ⟨⟩
  · simp [Coordinator.launch]
  · intro _
    exact h.installed (by simp [hstage])
  · intro token now s rest hmem
    rcases List.mem_append.mp hmem with hmem | hmem
    · cases hall _ hmem
    · cases List.mem_singleton.mp hmem
  · exact h.state.trans (by rw [hstage]; rfl)

/-- **Every turn keeps the invariant.** -/
theorem Inv.step (h : Inv m) (hstep : Step m m') : Inv m' := by
  cases hstep with
  | refuse hstage he =>
      rw [Coordinator.handle_of_error he]
      exact ⟨h.held, h.quiet, h.starting, h.installed, h.current, h.state⟩
  | accept hstage hp =>
      exact h.advance nofun rfl rfl (fun _ => h.installed (by simp [hstage])) (.inl rfl)
  | close hstage =>
      have hstate : m.coordinator.state = .running := h.state.trans (by rw [hstage]; rfl)
      exact h.advance nofun rfl hstate (fun _ => h.installed (by simp [hstage])) (.inl rfl)
  | @stop change hstage =>
      have hstate : m.coordinator.state = (Stage.joining change).state :=
        h.state.trans (by rw [hstage]; cases change <;> rfl)
      exact h.advance nofun rfl hstate (fun _ => h.installed (by simp [hstage])) (.inl rfl)
  | join hstage hheld => exact h.join hstage hheld
  | @publish request next hstage =>
      have hq : m.stage.Quiet := hstage ▸ .publishing (request, next)
      have hstate : m.coordinator.state = .reconfiguring := h.state.trans (by rw [hstage]; rfl)
      exact h.advance (fun _ => hq) rfl hstate (fun hne => absurd rfl (hne request)) (.inr hq)
  | @install request hstage =>
      have hq : m.stage.Quiet := hstage ▸ .installing request
      have hstate : m.coordinator.state = .reconfiguring := h.state.trans (by rw [hstage]; rfl)
      exact h.advance (fun _ => hq) rfl hstate (fun _ => rfl) (.inl rfl)
  | @renew request hstage =>
      have hq : m.stage.Quiet := hstage ▸ .renewing request
      have hstate : m.coordinator.state = .reconfiguring := h.state.trans (by rw [hstage]; rfl)
      exact h.advance (fun _ => hq) rfl hstate (fun _ => h.installed (by simp [hstage])) (.inl rfl)
  | launch hstage => exact h.launch hstage
  | resume hstage =>
      exact h.advance nofun rfl rfl (fun _ => h.installed (by simp [hstage])) (.inl rfl)
  | finish hstage =>
      have hq : m.stage.Quiet := hstage ▸ .closing
      exact h.advance (fun _ => hq) rfl rfl (fun _ => h.installed (by simp [hstage])) (.inl rfl)
  | task hi hturn => exact h.move hi hturn
  | outside alerts silences => exact ⟨h.held, h.quiet, h.starting, h.installed, h.current, h.state⟩

theorem Reachable.inv {c : Config} {registry : Registry} {link : Option Url}
    (hstart : Coordinator.start c registry link = .ok s₀) (h : Reachable s₀ hub m) : Inv m := by
  induction h with
  | start => exact .start hstart
  | step _ hstep ih => exact ih.step hstep

/-! ### Passes -/

/-- **No pass overlaps a change.**  Whatever turns the parties have taken, at most one run is
unfinished; when a snapshot is installed and a token is made for it, all runs have ended; and a
pass, from its beginning to its end, works with the snapshot that was published last. -/
theorem passes_exclude_changes {c : Config} {registry : Registry} {link : Option Url}
    (hstart : Coordinator.start c registry link = .ok s₀) (h : Reachable s₀ hub m) :
    (∀ (i j : Nat) (t t' : Task), m.tasks[i]? = some t → m.tasks[j]? = some t' →
      t ≠ .finished → t' ≠ .finished → i = j) ∧
    (∀ request, m.stage = .installing request ∨ m.stage = .renewing request →
      ∀ t ∈ m.tasks, t = .finished) ∧
    (∀ token now s rest, .passing token now s rest ∈ m.tasks →
      s = some m.coordinator.snapshot) := by
  have hinv := h.inv hstart
  refine ⟨?_, ?_, hinv.current⟩
  · intro i j t t' hi hj ht ht'
    exact hinv.eq_of_unfinished hi hj ht ht'
  · rintro request (hstage | hstage)
    · exact hinv.quiet (hstage ▸ .installing request)
    · exact hinv.quiet (hstage ▸ .renewing request)

/-- A run that begins only after it was told to stop, and a pass of the run that follows it. -/
theorem passes_exclude_changes_late : ∃ s₀ m now s rest,
    Coordinator.start (.ofReceiver (.named "a")) .standard none = .ok s₀ ∧
    Reachable s₀ (.empty none) m ∧ m.tasks = [.finished, .passing 1 now s rest] ∧
    m.coordinator.calls = [.install 1, .stop, .run, .install 2, .run] ∧
    s = some m.coordinator.snapshot := by
  obtain ⟨s₀, hstart⟩ := Coordinator.exists_start
  obtain ⟨next, hnext⟩ : ∃ next, s₀.prepare (.add (.named "b")) = .ok next := by
    cases hstart
    exact ⟨_, rfl⟩
  have h₀ : Reachable s₀ (.empty none) (start s₀ (.empty none)) := .start
  have h₁ := (h₀.step (.accept rfl hnext)).step (.stop rfl)
  have h₂ := (h₁.step (.task (i := 0) rfl .begin)).step (.task (i := 0) rfl .capture)
  have h₃ := h₂.step (.task (i := 0) rfl (.leave (List.mem_singleton.mpr rfl)))
  have h₄ := (h₃.step (.join rfl (by rintro _ ⟨⟩; rfl))).step (.publish rfl)
  have h₅ := ((h₄.step (.install rfl)).step (.renew rfl)).step (.launch rfl)
  have h₆ := (h₅.step (.resume rfl)).step (.task (i := 1) rfl .begin)
  have h₇ := (h₆.step (.task (i := 1) rfl .capture)).step
    (.task (i := 1) rfl (.tick default (by simp [start, move])))
  have h₈ := (h₇.step (.task (i := 1) rfl .sweep)).step (.task (i := 1) rfl (.read (.refl _)))
  refine ⟨s₀, _, _, _, _, hstart, h₈, rfl, ?_, ?_⟩
  · cases hstart
    rfl
  · exact (passes_exclude_changes hstart h₈).2.2 _ _ _ _ (List.mem_of_getElem? (i := 1) rfl)

end Pipeline

end AlertRouter
