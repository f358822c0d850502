import AlertRouter.Time.Instant

/-! # Moving back

An instant is moved back by subtracting from the time that has elapsed since 1970, where a leap
second counts as a part of the second after it.  An instant within a leap second stays within it as
long as it can (`Instant.back_eq_iff`).  This is what `sub?` does as far as the calendar goes
(`Instant.sub?_eq_some_iff`).

So an instant is never moved past itself (`Instant.back_le`).  But if one instant is within a leap
second and another one shortly after it, less time may have elapsed at the later one, which is then
moved further back.  Two instants keep their order exactly if it is also that of the elapsed time,
or if the later one stays within its second (`Instant.back_le_back_iff`). -/

namespace AlertRouter

namespace Instant

/-- The instant is one of the supported calendar. -/
structure InCalendar (t : Instant) : Prop where
  first : firstSecond ≤ t.seconds
  last : t.seconds ≤ lastSecond
  nanos_lt : t.nanos < 2 * second

/-- The instant `d` nanoseconds earlier, whether or not the calendar goes that far. -/
def back (t : Instant) (d : Int) : Instant :=
  if second ≤ t.nanos ∧ d < second then ⟨t.seconds, (t.nanos - d).toNat⟩
  else ofElapsed (t.elapsed - d)

variable {t t' n₁ n₂ : Instant} {d : Int}

theorem ofElapsed_eq_iff {n : Int} : ofElapsed n = t ↔ t.elapsed = n ∧ t.nanos < second := by
  obtain ⟨s, k⟩ := t
  simp only [ofElapsed, elapsed, second, mk.injEq]
  omega

/-- Elapsed time is subtracted.  A leap second is not left before it is over, and otherwise the
result is in none. -/
theorem back_eq_iff : t.back d = t' ↔ t'.elapsed = t.elapsed - d ∧
    if second ≤ t.nanos ∧ d < second then t'.seconds = t.seconds else t'.nanos < second := by
  unfold back
  split
  · obtain ⟨s, k⟩ := t'
    simp only [mk.injEq, elapsed]
    constructor
    · rintro ⟨rfl, rfl⟩
      omega
    · rintro ⟨helapsed, rfl⟩
      omega
  · exact ofElapsed_eq_iff

theorem back_zero (t : Instant) : t.back 0 = t := by
  rw [back_eq_iff, Int.sub_zero]
  refine ⟨rfl, ?_⟩
  split
  · rfl
  · unfold second at *
    omega

theorem back_le (hnanos : t.nanos < 2 * second) (hd : 0 ≤ d) : t.back d ≤ t := by
  obtain ⟨helapsed, hplace⟩ := back_eq_iff.mp (rfl : t.back d = _)
  rw [le_iff]
  unfold elapsed second at *
  split at hplace <;> omega

/-- The later one of two instants is moved further back exactly if less time has elapsed and it
leaves its second. -/
theorem back_le_back_iff (hnanos₁ : n₁.nanos < 2 * second) (hle : n₁ ≤ n₂) (hd : 0 ≤ d) :
    n₁.back d ≤ n₂.back d ↔ n₁.elapsed ≤ n₂.elapsed ∨ d ≤ n₂.nanos := by
  obtain ⟨helapsed₁, hplace₁⟩ := back_eq_iff.mp (rfl : n₁.back d = _)
  obtain ⟨helapsed₂, hplace₂⟩ := back_eq_iff.mp (rfl : n₂.back d = _)
  rw [le_iff] at hle ⊢
  unfold elapsed second at *
  -- Either one of the two may stay within a leap second.
  split at hplace₁ <;> split at hplace₂ <;> omega

/-! ### Within the calendar -/

theorem sub?_eq (ht : t.InCalendar) (hd : t.nanos < second ∨ 0 ≤ d) : t.sub? d =
    if (t.back d).seconds < firstSecond ∨ lastSecond < (t.back d).seconds then none
    else some (t.back d) := by
  obtain ⟨hfirst, hlast, hnanos⟩ := ht
  have hin : ¬ (t.seconds < firstSecond ∨ lastSecond < t.seconds) := by omega
  unfold sub?
  split
  · next hzero => rw [hzero, back_zero, if_neg hin]
  · split
    · next hwithin =>
        have hback : t.back d = ⟨t.seconds, (t.nanos - d).toNat⟩ := if_pos (by omega)
        rw [hback, if_neg hin]
    · have hback : t.back d = ofElapsed (t.elapsed - d) := if_neg (by omega)
      have hleap : ¬ (second ≤ t.nanos ∧ d < 0) := by omega
      rw [hback, if_neg hleap, Int.natCast_zero, Int.sub_zero]

theorem sub?_eq_some_iff (ht : t.InCalendar) (hd : t.nanos < second ∨ 0 ≤ d) :
    t.sub? d = some t' ↔ t.back d = t' ∧ firstSecond ≤ t'.seconds ∧ t'.seconds ≤ lastSecond := by
  rw [sub?_eq ht hd]
  split
  · next hbeyond =>
      constructor
      · nofun
      · rintro ⟨rfl, hfirst, hlast⟩
        omega
  · next hin =>
      rw [Option.some_inj]
      constructor
      · rintro rfl
        exact ⟨rfl, by omega, by omega⟩
      · exact And.left

theorem le_of_sub?_eq_some (ht : t.InCalendar) (hd : 0 ≤ d) (h : t.sub? d = some t') : t' ≤ t := by
  obtain ⟨rfl, -⟩ := (sub?_eq_some_iff ht (.inr hd)).mp h
  exact back_le ht.nanos_lt hd

theorem sub?_mono (h₁ : n₁.InCalendar) (h₂ : n₂.InCalendar) (hle : n₁ ≤ n₂) (hd : 0 ≤ d)
    (hkeeps : n₁.elapsed ≤ n₂.elapsed ∨ d ≤ n₂.nanos) {t₁ : Instant} (h : n₁.sub? d = some t₁) :
    ∃ t₂, n₂.sub? d = some t₂ ∧ t₁ ≤ t₂ := by
  obtain ⟨rfl, hfirst, -⟩ := (sub?_eq_some_iff h₁ (.inr hd)).mp h
  have hmono := (back_le_back_iff h₁.nanos_lt hle hd).mpr hkeeps
  have hback := back_le h₂.nanos_lt hd
  refine ⟨_, (sub?_eq_some_iff h₂ (.inr hd)).mpr ⟨rfl, ?_, ?_⟩, hmono⟩
  · rw [le_iff] at hmono
    omega
  · rw [le_iff] at hback
    have hlast := h₂.last
    omega

end Instant

end AlertRouter
