import AlertRouter.Time.Calendar

/-! # Days and dates

Every day is the day of its date (`dayNumber_dateOf`), and its date is valid in the supported years
(`isValid_dateOf`).

An era of 400 years has four centuries, a century 25 periods of four years, and only the last part
of each may be a day longer or shorter than the others.  `Placed` says where a day lies; from this,
the formula for the year (`yearOfEra`) and the number of the days before it (`daysBefore`) are
linear.  Years start in March, so the leap day is the last one of its year. -/

namespace AlertRouter.Calendar

/-- The days of an era before one of its years. -/
def daysBefore (y : Int) : Int := 365 * y + y / 4 - y / 100

/-- The year of an era that a day of the era lies in. -/
def yearOfEra (d : Int) : Int := (d - d / 1460 + d / 36524 - d / 146096) / 365

/-- A day of an era lies in a century; only the last century has a leap day at its end. -/
theorem exists_century {d : Int} (h : 0 ≤ d) (h' : d < 146097) :
    ∃ e u, d = 36524 * e + u ∧ 0 ≤ e ∧ e ≤ 3 ∧ 0 ≤ u ∧ u ≤ 36524 ∧ (u = 36524 → e = 3) ∧
      d / 36524 - d / 146096 = e := by
  by_cases hlast : d = 146096
  · exact ⟨3, 36524, by omega⟩
  · exact ⟨d / 36524, d % 36524, by omega⟩

/-- A day of a century lies in a period of four years.  The periods before it count 1460 days each
and a leap day, so the quotient by 1460 is too large by one towards the end of a period. -/
theorem exists_period {e u : Int} (he : 0 ≤ e) (he' : e ≤ 3) (hu : 0 ≤ u) (hu' : u ≤ 36524) :
    ∃ q t δ, u = 1461 * q + t ∧ 0 ≤ q ∧ q ≤ 24 ∧ 0 ≤ t ∧ t ≤ 1460 ∧
      (36524 * e + u) / 1460 = 25 * e + q + δ ∧ 0 ≤ δ ∧ δ ≤ 1 ∧ (δ = 1 → 1364 ≤ t) ∧
      (t = 1460 → δ = 1) := by
  refine ⟨u / 1461, u % 1461, (36524 * e + u) / 1460 - 25 * e - u / 1461, ?_⟩
  omega

/-- Where a day of an era lies: the century, the period of four years, the year of that and the day
of the year.  A year has 365 days, or 366 if it is the last one of its period, unless the period is
the last one of a century other than the last. -/
structure Placed (d e q s r : Int) : Prop where
  day : d = 36524 * e + 1461 * q + 365 * s + r
  century : 0 ≤ e ∧ e ≤ 3
  period : 0 ≤ q ∧ q ≤ 24
  year : 0 ≤ s ∧ s ≤ 3
  rest : 0 ≤ r ∧ r ≤ 365
  leap : r = 365 → s = 3 ∧ (q = 24 → e = 3)

theorem exists_placed {d : Int} (h : 0 ≤ d) (h' : d < 146097) :
    ∃ e q s r, Placed d e q s r ∧ yearOfEra d = 100 * e + 4 * q + s := by
  obtain ⟨e, u, hd, he, he', hu, hu', hlast, hcentury⟩ := exists_century h h'
  obtain ⟨q, t, δ, hut, hq, hq', ht, ht', hperiod, hδ, hδ', hlate, hend⟩ :=
    exists_period he he' hu hu'
  rw [← hd] at hperiod
  refine ⟨e, q, (t - δ) / 365, t - 365 * ((t - δ) / 365), ⟨?_, ?_, ?_, ?_, ?_, ?_⟩, ?_⟩
  · omega
  · omega
  · omega
  · omega
  · omega
  · omega
  · unfold yearOfEra
    omega

/-- The days of an era before one of its years. -/
theorem Placed.daysBefore {d e q s r : Int} (h : Placed d e q s r) :
    daysBefore (100 * e + 4 * q + s) = 36524 * e + 1461 * q + 365 * s := by
  obtain ⟨-, he, hq, hs, -, -⟩ := h
  unfold Calendar.daysBefore
  omega

/-! ### Months -/

/-- The date of a day of a year that starts in March. -/
def ofYearDay (y r : Int) : Date :=
  let shifted := (5 * r + 2) / 153
  ⟨if shifted < 10 then y else y + 1,
    (if shifted < 10 then shifted + 3 else shifted - 9).toNat,
    (r - (153 * shifted + 2) / 5 + 1).toNat⟩

theorem dayNumber_ofYearDay {era y r : Int} (hy : 0 ≤ y) (hy' : y < 400) (hr : 0 ≤ r)
    (hr' : r ≤ 365) :
    dayNumber (ofYearDay (400 * era + y) r) = 146097 * era + daysBefore y + r - 719468 := by
  unfold ofYearDay
  by_cases hm : (5 * r + 2) / 153 < 10
  · simp only [if_pos hm, dayNumber, daysBefore]
    rw [if_neg (by omega)]
    omega
  · simp only [if_neg hm, dayNumber, daysBefore]
    rw [if_pos (by omega)]
    omega

theorem dateOf_eq {n e q s r : Int} (h : Placed ((n + 719468) % 146097) e q s r)
    (hy : yearOfEra ((n + 719468) % 146097) = 100 * e + 4 * q + s) :
    dateOf n = ofYearDay (400 * ((n + 719468) / 146097) + (100 * e + 4 * q + s)) r := by
  have hdays := h.daysBefore
  obtain ⟨hd, -, -, -, hr, -⟩ := h
  have hrest : (n + 719468) % 146097 - daysBefore (100 * e + 4 * q + s) = r := by omega
  have hdate : dateOf n =
      let r := (n + 719468) % 146097 - daysBefore (yearOfEra ((n + 719468) % 146097))
      let shifted := (5 * r + 2) / 153
      let month := if shifted < 10 then shifted + 3 else shifted - 9
      ⟨yearOfEra ((n + 719468) % 146097) + (n + 719468) / 146097 * 400 +
          if month ≤ 2 then 1 else 0,
        month.toNat, (r - (153 * shifted + 2) / 5 + 1).toNat⟩ := rfl
  rw [hdate, hy, hrest]
  unfold ofYearDay
  by_cases hm : (5 * r + 2) / 153 < 10
  · simp only [if_pos hm]
    rw [if_neg (by omega)]
    congr 1
    omega
  · simp only [if_neg hm]
    rw [if_pos (by omega)]
    congr 1
    omega

theorem daysInMonth_le (y : Int) (m : Nat) : daysInMonth y m ≤ 31 := by
  unfold daysInMonth
  split
  · split <;> decide
  all_goals decide

/-- The months have as many days as the formula leaves for them, the last one 29 in a leap year. -/
theorem day_ofYearDay {y r : Int} (hr : 0 ≤ r) (hr' : r ≤ 365)
    (hleap : r = 365 → isLeapYear (y + 1) = true) :
    1 ≤ (ofYearDay y r).month ∧ (ofYearDay y r).month ≤ 12 ∧ 1 ≤ (ofYearDay y r).day ∧
      (ofYearDay y r).day ≤ daysInMonth (ofYearDay y r).year (ofYearDay y r).month := by
  unfold ofYearDay
  generalize hm : (5 * r + 2) / 153 = m
  obtain rfl | rfl | rfl | rfl | rfl | rfl | rfl | rfl | rfl | rfl | rfl | rfl :
      m = 0 ∨ m = 1 ∨ m = 2 ∨ m = 3 ∨ m = 4 ∨ m = 5 ∨ m = 6 ∨ m = 7 ∨ m = 8 ∨ m = 9 ∨ m = 10 ∨
        m = 11 := by omega
  all_goals simp [daysInMonth]
  all_goals try omega
  -- only the last month is left, whose last day is the leap day
  by_cases h : r = 365
  · rw [if_pos (hleap h)]
    omega
  · split <;> omega

/-- Every day is the day of its date. -/
theorem dayNumber_dateOf (n : Int) : dayNumber (dateOf n) = n := by
  obtain ⟨e, q, s, r, h, hy⟩ := exists_placed (d := (n + 719468) % 146097) (by omega) (by omega)
  have hdays := h.daysBefore
  rw [dateOf_eq h hy]
  obtain ⟨hd, he, hq, hs, hr, -⟩ := h
  rw [dayNumber_ofYearDay (by omega) (by omega) hr.1 hr.2, hdays]
  omega

theorem isValid_dateOf {n : Int} (hfirst : firstYear ≤ (dateOf n).year)
    (hlast : (dateOf n).year ≤ lastYear) : isValid (dateOf n) = true := by
  obtain ⟨e, q, s, r, h, hy⟩ := exists_placed (d := (n + 719468) % 146097) (by omega) (by omega)
  have hleap : r = 365 →
      isLeapYear (400 * ((n + 719468) / 146097) + (100 * e + 4 * q + s) + 1) = true := by
    intro hr
    obtain ⟨hs, hq⟩ := h.leap hr
    obtain ⟨-, he, hq', -, -, -⟩ := h
    simp [isLeapYear]
    omega
  rw [dateOf_eq h hy] at hfirst hlast ⊢
  have hday := day_ofYearDay h.rest.1 h.rest.2 hleap
  simp only [isValid, decide_eq_true_eq, Bool.decide_and, Bool.and_eq_true]
  exact ⟨hfirst, hlast, hday⟩

end AlertRouter.Calendar
