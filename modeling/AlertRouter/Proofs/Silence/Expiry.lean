import AlertRouter.Proofs.Silence.Store

/-! # Ending a silence

A silence is ended by cutting its window off at `now`: the end moves there, and so does the start if
it lies ahead, which leaves an empty window.  Whoever asks for the state at a time before `now` is
still told what he would have been told before, and from `now` on the silence is over
(`SilenceState.ofWindow_min`).

So ending a silence does not rewrite its past (`SilenceRecord.EndsAt`), and it can be done only
once: a silence that is over stays as it is, and the request is refused
(`SilenceStore.expire_ends`). -/

namespace AlertRouter

namespace SilenceState

variable {startsAt endsAt now t : Instant}

theorem ofWindow_eq_expired_iff :
    ofWindow startsAt endsAt t = .expired ↔ startsAt ≤ t ∧ endsAt ≤ t := by
  unfold ofWindow
  by_cases hstart : t < startsAt
  · simp [hstart, ← Instant.not_lt]
  · by_cases hend : t < endsAt
    · simp [hstart, hend, ← Instant.not_lt]
    · simp [hstart, hend, ← Instant.not_lt]

/-- A window that is cut off at a time when it is not over looks the same at earlier times. -/
theorem ofWindow_min (hnow : ofWindow startsAt endsAt now ≠ .expired) (ht : t < now) :
    ofWindow (startsAt.min now) now t = ofWindow startsAt endsAt t := by
  unfold ofWindow
  by_cases hstart : t < startsAt
  · rw [if_pos (Instant.lt_min_iff.mpr ⟨hstart, ht⟩), if_pos hstart]
  · -- The start is not ahead of `t`, so at `now` only the end can be.
    have hstarted : startsAt ≤ now := by
      rw [Instant.not_lt, Instant.le_iff] at hstart
      rw [Instant.lt_iff] at ht
      rw [Instant.le_iff]
      omega
    have hlast : now < endsAt :=
      Instant.not_le.mp fun h => hnow (ofWindow_eq_expired_iff.mpr ⟨hstarted, h⟩)
    have hend : t < endsAt := by
      rw [Instant.lt_iff] at *
      omega
    rw [if_neg fun h => hstart (Instant.lt_min_iff.mp h).1, if_pos ht, if_neg hstart, if_pos hend]

end SilenceState

namespace SilenceRecord

variable {r r' : SilenceRecord} {id : String} {now : Instant}

/-- What becomes of a record that is ended at `now`: from then on it is over, before it is what it
was, and nothing but its window and its time of writing changes. -/
structure EndsAt (now : Instant) (r r' : SilenceRecord) : Prop where
  expired : ∀ t, now ≤ t → r'.stateAt t = .expired
  past : ∀ t, t < now → r'.stateAt t = r.stateAt t
  kept : r'.id = r.id ∧ r'.matchers = r.matchers ∧ r'.createdBy = r.createdBy ∧
    r'.comment = r.comment
  window : r.startsAt ≤ r.endsAt → r'.startsAt ≤ r'.endsAt

theorem endsAt_of_ended (h : SilenceStore.ended id r now = .ok r') : r.EndsAt now r' := by
  obtain ⟨hnow, rfl⟩ := SilenceStore.ended_eq_ok_iff.mp h
  refine ⟨?_, ?_, ⟨rfl, rfl, rfl, rfl⟩, fun _ => Instant.min_le_right _ _⟩
  · intro t ht
    exact SilenceState.ofWindow_eq_expired_iff.mpr
      ⟨Instant.le_trans (Instant.min_le_right _ _) ht, ht⟩
  · intro t ht
    exact SilenceState.ofWindow_min hnow ht

end SilenceRecord

namespace SilenceStore

variable {s : SilenceStore} {r : SilenceRecord} {id : String} {now : Instant}

/-- A silence that is over cannot be ended. -/
theorem change_expire_of_expired (hr : s.get? id = some r) (hover : r.stateAt now = .expired) :
    (Remote.up s).change (·.expire id now) =
      (.error (.badInput (.silenceExpired id)), .up s) := by
  refine Remote.change_up_of_error ?_
  rw [expire, hr]
  simp only [ended, hover]
  rfl

/-- **Ending a silence does not rewrite its past, and it is done once.**  A silence that is not over
is ended: its record is replaced as `EndsAt` says and no other one changes.  If the silence is over
or unknown, the request is refused and the store stays as it is.  So the request is refused at any
later time, whatever is requested in between, as long as nothing is written under this id. -/
theorem expire_ends (s : SilenceStore) (id : String) (now : Instant) :
    let outcome := (Remote.up s).change (·.expire id now)
    (s.get? id = none → outcome = (.error (.unknownSilence id), .up s)) ∧
    ∀ r, s.get? id = some r →
      (r.stateAt now = .expired →
        outcome = (.error (.badInput (.silenceExpired id)), .up s)) ∧
      (r.stateAt now ≠ .expired → ∃ s' r', outcome = (.ok (), .up s') ∧
        s'.get? id = some r' ∧ r.EndsAt now r' ∧
        (∀ other, other ≠ id → s'.get? other = s.get? other) ∧
        ∀ ids later, s'.Run ids later → id ∉ ids → ∀ t, now ≤ t →
          (Remote.up later).change (·.expire id t) =
            (.error (.badInput (.silenceExpired id)), .up later)) := by
  intro outcome
  refine ⟨fun hnone => ?_, fun r hr => ⟨change_expire_of_expired hr, fun hstate => ?_⟩⟩
  · exact Remote.change_up_of_error (by rw [expire, hnone])
  · have hended : ended id r now = .ok _ := ended_eq_ok_iff.mpr ⟨hstate, rfl⟩
    have hexpire := Remote.change_up_of_ok (s := s) (f := (·.expire id now))
      (by rw [expire, hr]; simp only [hended]; rfl)
    have hends := SilenceRecord.endsAt_of_ended hended
    refine ⟨_, _, hexpire, SortedMap.get?_insert_self _ _ _, hends,
      fun other hother => SortedMap.get?_insert_of_ne _ _ hother, ?_⟩
    intro ids later hrun hid t ht
    have hlater := (hrun.get?_of_notMem hid).trans (SortedMap.get?_insert_self _ _ _)
    exact change_expire_of_expired hlater (hends.expired t ht)

/-- A silence is ended at the instant of its start: it has been pending and is over, and after
another one has come it cannot be ended once more. -/
theorem expire_ends_at_start : ∃ (s s' later : SilenceStore) (r r' : SilenceRecord),
    s.get? "u-1" = some r ∧ r.stateAt ⟨5, 0⟩ = .active ∧
    (Remote.up s).change (·.expire "u-1" ⟨5, 0⟩) = (.ok (), .up s') ∧
    s'.get? "u-1" = some r' ∧ r'.stateAt ⟨4, 9⟩ = .pending ∧ r'.stateAt ⟨5, 0⟩ = .expired ∧
    later.get? "u-2" ≠ none ∧
    (Remote.up later).change (·.expire "u-1" ⟨7, 0⟩) =
      (.error (.badInput (.silenceExpired "u-1")), .up later) := by
  let silence : Silence := ⟨"", [.equal "job" "api"], ⟨5, 0⟩, ⟨9, 0⟩, ⟨0, 0⟩, "me", "", none⟩
  let r : SilenceRecord := .ofSilence (silence.storedAs "u-1" ⟨1, 0⟩)
  let s : SilenceStore := ⟨SortedMap.empty.insert "u-1" r, 0⟩
  have hr : s.get? "u-1" = some r := SortedMap.get?_insert_self _ _ _
  obtain ⟨s', r', houtcome, hr', hends, -, hlater⟩ :=
    ((expire_ends s "u-1" ⟨5, 0⟩).2 r hr).2 (by decide)
  have hpast : r'.stateAt ⟨4, 9⟩ = .pending := hends.past ⟨4, 9⟩ (by decide)
  have hgrants : ¬ s'.Refuses silence ⟨6, 0⟩ := by
    simp [Refuses, silence, Instant.lt_iff, Matcher.equal]
  obtain ⟨-, n, hcreate⟩ :=
    (createAs_cases "u-2" s' silence ⟨6, 0⟩).resolve_left fun h => hgrants h.1
  have hrun := (Run.refl (s := s')).create "u-2" silence ⟨6, 0⟩
  rw [hcreate] at hrun
  have hover : r'.stateAt ⟨5, 0⟩ = .expired := hends.expired _ (Instant.le_refl _)
  refine ⟨s, s', _, r, r', hr, by decide, houtcome, hr', hpast, hover, ?_,
    hlater _ _ hrun ?_ ⟨7, 0⟩ (by decide)⟩
  · exact fun hnone => nomatch (SortedMap.get?_insert_self _ _ _).symm.trans hnone
  · show "u-1" ∉ ["u-2"]
    decide

end SilenceStore

end AlertRouter
