import AlertRouter.Proofs.Alert.Batch
import AlertRouter.Proofs.Alert.Episode
import AlertRouter.Proofs.Time.Back

/-! # The times of posted alerts

A client may leave out the start and the end of an alert, and a time within the first second of the
year 1 counts as left out (`Alert.Missing`).  The times that it gives are kept.  A missing end lies
a resolve timeout after the time of posting; a missing start is the given end, wherever that lies,
and the time of posting if there is no end either.

So an alert that is posted without a start never ends before it starts, as a timeout does not go
back in time (`Instant.le_of_plus?_eq_some`).  It starts later than it was posted if its end is
given and lies ahead, and in no other case.  Putting it into the store can only make the start
earlier (`Alert.startsAt_continued_le`), and does not unless it continues the alert stored there
(`Alert.continued_of_not_continues`).  `Alert.Posted.times_filled` has all of this. -/

namespace AlertRouter

/-! ### Moving forward -/

namespace Instant

variable {t t' : Instant} {d : Int}

/-- The instant `d` nanoseconds later, unless that is beyond the calendar. -/
def plus? (t : Instant) (d : Int) : Option Instant := t.sub? (-d)

/-- Time that passes does not lead back. -/
theorem le_of_plus?_eq_some (hd : 0 ≤ d) (h : t.plus? d = some t') : t ≤ t' := by
  unfold plus? sub? at h
  split at h
  · cases h
    exact le_refl t
  · next hmoves =>
      split at h
      · obtain rfl := Option.some.inj h
        rw [le_iff]
        right
        refine ⟨rfl, ?_⟩
        show t.nanos ≤ Int.toNat _
        omega
      · next hleaves =>
          have hmoved := (Option.ite_none_left_eq_some.mp h).2
          obtain ⟨helapsed, hnanos⟩ := ofElapsed_eq_iff.mp (Option.some.inj hmoved)
          rw [le_iff]
          unfold elapsed second at *
          split at helapsed <;> omega

/-- Whole seconds are added to the seconds, out of a leap second. -/
theorem plus?_seconds (ht : t.InCalendar) {n : Nat} (hn : t.seconds + n ≤ lastSecond) :
    t.plus? (n * second) = some (t.addSeconds n) := by
  obtain ⟨hfirst, hlast, hnanos⟩ := ht
  unfold plus? sub? addSeconds
  by_cases hzero : n = 0
  · subst hzero
    simp
  · have hmoved : ofElapsed (t.elapsed - -(n * second) -
        ((if second ≤ t.nanos ∧ -(n * second : Int) < 0 then second else 0 : Nat) : Int)) =
        ⟨t.seconds + n, if second ≤ t.nanos then t.nanos - second else t.nanos⟩ := by
      rw [ofElapsed_eq_iff]
      by_cases hleap : second ≤ t.nanos
      · have hforward : -(n * second : Int) < 0 := by
          unfold second
          omega
        rw [if_pos hleap, if_pos ⟨hleap, hforward⟩]
        show (t.seconds + n) * second + ((t.nanos - second : Nat) : Int) = _ ∧
          t.nanos - second < second
        unfold elapsed second at *
        omega
      · rw [if_neg hleap, if_neg fun h => hleap h.1]
        show (t.seconds + n) * second + (t.nanos : Int) = _ ∧ t.nanos < second
        unfold elapsed second at *
        omega
    rw [if_neg (by unfold second; omega), if_neg (by unfold second; omega), if_neg hzero, hmoved,
      if_neg (by simp; omega)]

end Instant

/-! ### Filling in -/

namespace Alert

/-- The time was left out, or is the one that stands for this. -/
def Missing (t : Option Instant) : Prop := ∀ x, t = some x → x.isZero = true

/-- The time was given. -/
def Given (t : Option Instant) (x : Instant) : Prop := t = some x ∧ x.isZero = false

variable {t : Option Instant} {x : Instant}

theorem given_eq_none_iff : Posted.given t = none ↔ Missing t := by
  unfold Posted.given Missing
  rw [Option.filter_eq_none_iff]
  simp

theorem given_eq_some_iff : Posted.given t = some x ↔ Given t x := by
  unfold Posted.given Given
  rw [Option.filter_eq_some_iff]
  simp

/-- The update continues what is stored: it starts no later than that ends. -/
def Continues (a : Alert) (old : Option Alert) : Prop := ∃ b, old = some b ∧ a.startsAt ≤ b.endsAt

/-- An update that continues nothing is stored as it is. -/
theorem continued_of_not_continues {old : Option Alert} {a : Alert} (h : ¬ a.Continues old) :
    AlertStore.continued old a = a := by
  cases old with
  | none => rfl
  | some b => exact if_neg fun hboth => h ⟨b, rfl, hboth.1⟩

/-- The start that is taken over from a stored alert is an earlier one. -/
theorem startsAt_continued_le (old : Option Alert) (a : Alert) :
    (AlertStore.continued old a).startsAt ≤ a.startsAt := by
  unfold AlertStore.continued
  split
  · next b =>
      split
      · next hcontinues =>
          exact (Instant.le_total _ _).resolve_right (Instant.not_le.mpr hcontinues.2)
      · exact Instant.le_refl _
  · exact Instant.le_refl _

theorem checkNames_ne_error {labels : LabelSet} : checkNames labels ≠
    .error (.badInput .alertEndsFirst) := by
  unfold checkNames
  split
  · nofun
  · nofun

/-- An alert that does not end before it starts is not refused for this. -/
theorem refusal?_ne_of_le {a : Alert} (h : a.startsAt ≤ a.endsAt) :
    a.refusal? ≠ some (.badInput .alertEndsFirst) := by
  have hvalidate : a.validate ≠ .error (.badInput .alertEndsFirst) := by
    unfold validate
    rw [if_neg (Instant.not_lt.mpr h)]
    split
    · nofun
    · cases hlabels : checkNames a.labels with
      | error e => exact fun he => checkNames_ne_error (hlabels.trans he)
      | ok u => exact checkNames_ne_error
  intro hrefusal
  unfold refusal? at hrefusal
  cases hv : a.validate with
  | error e =>
      rw [hv] at hrefusal
      cases hrefusal
      exact hvalidate hv
  | ok u => simp [hv] at hrefusal

end Alert

namespace AlertStore

open Alert

/-- The last update of a fingerprint in a batch decides what is stored under it. -/
theorem get?_ingestBy_last (s : AlertStore) (t : Tally) (before : List Posted)
    {after : List Posted} {p : Posted}
    {now deadline : Instant} (hvalid : (p.cleanedBy now deadline).isValid = true)
    (hlast : ∀ q ∈ after,
      (q.cleanedBy now deadline).fingerprint ≠ (p.cleanedBy now deadline).fingerprint) :
    let f := (p.cleanedBy now deadline).fingerprint
    (s.ingestBy t (before ++ p :: after) deadline now).2.1.get? f =
      some (continued ((s.ingestBy t before deadline now).2.1.get? f)
        (p.cleanedBy now deadline)) := by
  intro f
  have hafter : (Batch.accepted after now deadline).filter (·.fingerprint = f) = [] := by
    rw [List.filter_eq_nil_iff]
    intro a ha
    obtain ⟨q, hq, rfl⟩ := List.mem_map.mp (List.mem_filter.mp ha).1
    simpa using hlast q hq
  have haccepted : Batch.accepted (before ++ p :: after) now deadline =
      Batch.accepted before now deadline ++ p.cleanedBy now deadline ::
        Batch.accepted after now deadline := by
    unfold Batch.accepted
    rw [List.map_append, List.filter_append, List.map_cons, List.filter_cons_of_pos hvalid]
  rw [store_ingestBy, haccepted, get?_put, List.filter_append,
    List.filter_cons_of_pos (by simp [f]), hafter, merged, List.foldl_append, store_ingestBy,
    get?_put]
  rfl

end AlertStore

namespace Alert.Posted

variable {p : Posted} {now deadline : Instant}

/-- How the times of an alert are filled in that is posted at `now`, with a timeout that leads to
`deadline`. -/
structure Filled (p : Posted) (now deadline : Instant) : Prop where
  /-- A missing end is the deadline. -/
  endless : Missing p.endsAt →
    (p.toAlertBy now deadline).endsAt = deadline ∧ (p.toAlertBy now deadline).timeout = true
  /-- A given end is kept. -/
  ended : ∀ e, Given p.endsAt e →
    (p.toAlertBy now deadline).endsAt = e ∧ (p.toAlertBy now deadline).timeout = false
  /-- A given start is kept. -/
  begun : ∀ x, Given p.startsAt x → (p.toAlertBy now deadline).startsAt = x
  /-- A missing start is the given end. -/
  startless : Missing p.startsAt → ∀ e, Given p.endsAt e →
    (p.toAlertBy now deadline).startsAt = e
  /-- Without an end either it is the time of posting. -/
  timeless : Missing p.startsAt → Missing p.endsAt → (p.toAlertBy now deadline).startsAt = now
  /-- Without a start the order of the times is no reason to refuse the alert. -/
  ordered : Missing p.startsAt →
    (p.cleanedBy now deadline).refusal? ≠ some (.badInput .alertEndsFirst)

/-- The timeout leads from `now` to the deadline, if any of the alerts has no end of its own and so
needs the deadline. -/
def Leads (posted : List Posted) (now : Instant) (timeout : Int) (deadline : Instant) : Prop :=
  ∀ q ∈ posted, Missing q.endsAt → now.plus? timeout = some deadline

/-- What is stored of an alert that is posted between others, whatever was stored before.  It starts
after `now` only if its end was given and lies after `now`, and exactly then if it continues no
stored alert: either there is none with its labels, or that has ended before it starts. -/
def StoredInTime (p : Posted) (before after : List Posted) (now deadline : Instant) : Prop :=
  ∀ (s : AlertStore) (t : Tally),
    let f := (p.cleanedBy now deadline).fingerprint
    let old := (s.ingestBy t before deadline now).2.1.get? f
    ∃ a, (s.ingestBy t (before ++ p :: after) deadline now).2.1.get? f = some a ∧
      a.updatedAt = now ∧
      (now < a.startsAt → ∃ e, Given p.endsAt e ∧ now < e) ∧
      (¬ (p.cleanedBy now deadline).Continues old →
        (now < a.startsAt ↔ ∃ e, Given p.endsAt e ∧ now < e))

theorem filled (p : Posted) (hdeadline : Missing p.endsAt → now ≤ deadline) :
    p.Filled now deadline := by
  refine ⟨?_, ?_, ?_, ?_, ?_, ?_⟩
  · intro hend
    rw [← given_eq_none_iff] at hend
    simp [toAlertBy, hend]
  · intro e hend
    rw [← given_eq_some_iff] at hend
    simp [toAlertBy, hend]
  · intro x hstart
    rw [← given_eq_some_iff] at hstart
    simp [toAlertBy, hstart]
  · intro hstart e hend
    rw [← given_eq_none_iff] at hstart
    rw [← given_eq_some_iff] at hend
    simp [toAlertBy, hstart, hend]
  · intro hstart hend
    rw [← given_eq_none_iff] at hstart hend
    simp [toAlertBy, hstart, hend]
  · intro hstart
    rw [← given_eq_none_iff] at hstart
    refine refusal?_ne_of_le ?_
    show (p.toAlertBy now deadline).startsAt ≤ (p.toAlertBy now deadline).endsAt
    cases hend : given p.endsAt with
    | none => simpa [toAlertBy, hstart, hend] using hdeadline (given_eq_none_iff.mp hend)
    | some e => simpa [toAlertBy, hstart, hend] using Instant.le_refl e

/-- Without a start an alert starts after the time of posting if its end lies there. -/
theorem lt_startsAt_iff (hstart : Missing p.startsAt)
    (hdeadline : Missing p.endsAt → now ≤ deadline) :
    now < (p.cleanedBy now deadline).startsAt ↔ ∃ e, Given p.endsAt e ∧ now < e := by
  have hfilled := p.filled hdeadline
  show now < (p.toAlertBy now deadline).startsAt ↔ _
  constructor
  · intro hlate
    cases hend : given p.endsAt with
    | none =>
        rw [hfilled.timeless hstart (given_eq_none_iff.mp hend)] at hlate
        exact absurd (Instant.le_refl now) (Instant.not_le.mpr hlate)
    | some e =>
        have hgiven := given_eq_some_iff.mp hend
        rw [hfilled.startless hstart e hgiven] at hlate
        exact ⟨e, hgiven, hlate⟩
  · rintro ⟨e, hend, hlate⟩
    rwa [hfilled.startless hstart e hend]

theorem storedInTime {before after : List Posted} (hstart : Missing p.startsAt)
    (hdeadline : Missing p.endsAt → now ≤ deadline)
    (hvalid : (p.cleanedBy now deadline).isValid = true)
    (hlast : ∀ q ∈ after,
      (q.cleanedBy now deadline).fingerprint ≠ (p.cleanedBy now deadline).fingerprint) :
    p.StoredInTime before after now deadline := by
  intro s t f old
  have hstored := s.get?_ingestBy_last t before hvalid hlast
  have hlate := lt_startsAt_iff hstart hdeadline
  refine ⟨_, hstored, ?_, ?_, ?_⟩
  · exact (Hub.continued_eq _ _).2
  · intro hafter
    exact hlate.mp (Instant.lt_of_lt_of_le hafter (startsAt_continued_le _ _))
  · intro hnew
    rw [continued_of_not_continues hnew]
    exact hlate

/-- **The times of a posted alert are filled in from each other, from the time of posting and from
the timeout.**  Without a start an alert starts at its given end, even if that lies ahead, or else
when it was posted.  So it is stored with a start after the time of posting only if its end was
given and lies there, and it is never refused for the order of its times. -/
theorem times_filled (p : Posted) (before after : List Posted) {timeout : Int}
    (htimeout : 0 ≤ timeout) (hdeadline : Leads (before ++ p :: after) now timeout deadline) :
    p.Filled now deadline ∧
    (Missing p.startsAt → (p.cleanedBy now deadline).isValid = true →
      (∀ q ∈ after,
        (q.cleanedBy now deadline).fingerprint ≠ (p.cleanedBy now deadline).fingerprint) →
      p.StoredInTime before after now deadline) := by
  have hle (hend : Missing p.endsAt) : now ≤ deadline :=
    Instant.le_of_plus?_eq_some htimeout (hdeadline p (by simp) hend)
  exact ⟨p.filled hle, fun hstart => storedInTime hstart hle⟩

/-- An alert with the time that stands for none as its start, posted with a timeout of five minutes
after one that has ended and before one that has no times: it starts when it ends, and so it is
stored. -/
theorem times_filled_zero_start :
    let ended : Posted := ⟨.ofList [("job", "b")], .empty, some ⟨3, 0⟩, some ⟨5, 0⟩, ""⟩
    let p : Posted := { ended with
      startsAt := some ⟨Instant.zeroSecond, 5⟩, endsAt := some ⟨20, 0⟩ }
    let timeless : Posted := ⟨.ofList [("job", "c")], .empty, none, none, ""⟩
    Leads [ended, p, timeless] ⟨12, 0⟩ (300 * Instant.second) ⟨312, 0⟩ ∧ Missing p.startsAt ∧
      Given p.endsAt ⟨20, 0⟩ ∧ (p.toAlertBy ⟨12, 0⟩ ⟨312, 0⟩).startsAt = ⟨20, 0⟩ ∧
      p.StoredInTime [ended] [timeless] ⟨12, 0⟩ ⟨312, 0⟩ ∧
      ∃ a, (AlertStore.empty.ingestBy .empty [ended, p, timeless] ⟨312, 0⟩ ⟨12, 0⟩).2.1.get?
        (.of p.labels) = some a ∧ ⟨12, 0⟩ < a.startsAt := by
  intro ended p timeless
  have hdeadline : Leads [ended, p, timeless] ⟨12, 0⟩ ((300 : Nat) * Instant.second) ⟨312, 0⟩ :=
    fun q _ _ => Instant.plus?_seconds ⟨by decide, by decide, by decide⟩ (by decide)
  have hstart : Missing p.startsAt := by
    intro x hx
    cases hx
    rfl
  have hend : Given p.endsAt ⟨20, 0⟩ := ⟨rfl, rfl⟩
  have hother : ∀ q ∈ [timeless], (q.cleanedBy ⟨12, 0⟩ ⟨312, 0⟩).fingerprint ≠
      (p.cleanedBy ⟨12, 0⟩ ⟨312, 0⟩).fingerprint := by
    intro q hq
    obtain rfl := List.mem_singleton.mp hq
    decide +kernel
  obtain ⟨hfilled, hstored⟩ := p.times_filled [ended] [timeless] (by decide) hdeadline
  have htime := hstored hstart (by decide) hother
  obtain ⟨a, ha, -, -, hlate⟩ := htime .empty .empty
  refine ⟨hdeadline, hstart, hend, hfilled.startless hstart _ hend, htime, a, ha, ?_⟩
  refine (hlate ?_).mpr ⟨_, hend, by decide⟩
  -- The stored alert is the first one of the batch.
  rintro ⟨b, hb, hle⟩
  have hold := AlertStore.get?_insert_of_labels .empty (ended.cleanedBy ⟨12, 0⟩ ⟨312, 0⟩)
  obtain rfl := Option.some.inj (hold.symm.trans hb)
  exact absurd hle (by decide)

/-- The earlier one of the time of posting and the end that was given is not the start: this alert
is stored with a start that lies ahead. -/
theorem start_lies_ahead :
    let p : Posted := ⟨.ofList [("job", "b")], .empty, none, some ⟨20, 0⟩, ""⟩
    Missing p.startsAt ∧ Given p.endsAt ⟨20, 0⟩ ∧
      (p.toAlertBy ⟨12, 0⟩ ⟨312, 0⟩).startsAt ≠ Instant.min ⟨12, 0⟩ ⟨20, 0⟩ ∧
      ∃ a, (AlertStore.empty.ingestBy .empty [p] ⟨312, 0⟩ ⟨12, 0⟩).2.1.get? (.of p.labels) =
        some a ∧ ⟨12, 0⟩ < a.startsAt := by
  intro p
  refine ⟨nofun, ⟨rfl, rfl⟩, by decide, p.toAlertBy ⟨12, 0⟩ ⟨312, 0⟩, ?_, by decide⟩
  exact AlertStore.get?_insert_of_labels .empty _

end Alert.Posted

end AlertRouter
