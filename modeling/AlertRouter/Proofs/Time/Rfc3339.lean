import AlertRouter.Proofs.Cut
import AlertRouter.Proofs.Text.Digits
import AlertRouter.Proofs.Time.Calendar
import AlertRouter.Time.Rfc3339
import Mathlib.Algebra.Group.Nat.Defs

/-! # Instants that are written can be read

The relaxed reader takes back what the printer writes, for every instant of the supported years
(`parse?_print`).  The numbers are delimited by what is no digit, so they are read as they were
written (`number?_padded`); a fraction of 3, 6 or 9 digits counts the units that its length says
(`fraction?_padded`); and the fields denote the instant that they were taken from
(`instant?_fieldsOf`), because every day is the day of its date.  A leap second is written as the
second 60, which only the last second of a minute can give. -/

namespace AlertRouter.Rfc3339

open Text (trimStart Undigited)

variable {n w a b : Nat} {rest : List Char}

/-! ### Numbers -/

theorem isDigit_of_mem_padded {c : Char} (h : c ∈ padded w n) : c.isDigit = true := by
  rcases List.mem_append.mp h with h | h
  · rw [List.eq_of_mem_replicate h]
    rfl
  · exact Nat.isDigit_of_mem_toDigits (by decide) (by decide) h

theorem length_padded (hw : 0 < w) (h : n < 10 ^ w) :
    (padded w n).length = w := by
  have hlength := (Nat.length_toDigits_le_iff (by decide) hw).mpr h
  rw [padded, List.length_append, List.length_replicate]
  omega

theorem digitsValue_padded : digitsValue (padded w n) = n := by
  show Nat.ofDigitChars 10 (padded w n) 0 = n
  rw [padded, Nat.ofDigitChars_append, Nat.ofDigitChars_replicate_zero, Nat.mul_zero,
    Nat.ofDigitChars_ten_toDigits]

/-- All digits are taken, if there are not too few or too many of them. -/
theorem number?_append {ds : List Char} (hds : ∀ c ∈ ds, c.isDigit = true)
    (ha : a ≤ ds.length) (hb : ds.length ≤ b) (h : Undigited rest) :
    number? a b (ds ++ rest) = some (digitsValue ds, rest) := by
  have htake : (List.take b (ds ++ rest)).takeWhile Char.isDigit = ds := by
    rw [List.take_append, List.take_of_length_le hb]
    exact List.takeWhile_append_of_head? hds (h.take _)
  unfold number?
  simp only [htake]
  rw [if_neg (Nat.not_lt.mpr ha), List.drop_left]

theorem number?_padded (ha : a ≤ (padded w n).length)
    (hb : (padded w n).length ≤ b) (h : Undigited rest) :
    number? a b (padded w n ++ rest) = some (n, rest) := by
  rw [number?_append (fun _ => isDigit_of_mem_padded) ha hb h, digitsValue_padded]

/-- A number with leading zeros begins with a digit. -/
theorem exists_cons_padded (w n : Nat) :
    ∃ c cs, padded w n = c :: cs ∧ c.isDigit = true := by
  have hne : padded w n ≠ [] :=
    fun h => Nat.toDigits_ne_nil (List.append_eq_nil_iff.mp h).2
  obtain ⟨c, cs, hcs⟩ := List.exists_cons_of_ne_nil hne
  exact ⟨c, cs, hcs, isDigit_of_mem_padded (w := w) (n := n) (by simp [hcs])⟩

theorem trimStart_padded : trimStart (padded w n ++ rest) = padded w n ++ rest := by
  obtain ⟨c, cs, hcs, hc⟩ := exists_cons_padded w n
  rw [hcs]
  exact Text.trimStart_of_flush (.of_isDigit hc)

theorem loose?_padded (hn : n < 100) (h : Undigited rest) :
    loose? (padded 2 n ++ rest) = some (n, rest) := by
  have hlength := length_padded (w := 2) (by decide) hn
  rw [loose?, trimStart_padded, number?_padded (by omega) (by omega) h]

/-! ### The year -/

/-- The digits after a sign are all taken. -/
theorem number?_signed (h : Undigited rest) :
    number? 1 (padded 4 n ++ rest).length (padded 4 n ++ rest) = some (n, rest) := by
  obtain ⟨c, cs, hcs, -⟩ := exists_cons_padded 4 n
  refine number?_padded ?_ ?_ h
  · rw [hcs]
    exact Nat.succ_le_succ (Nat.zero_le _)
  · rw [List.length_append]
    exact Nat.le_add_right ..

theorem year?_printYear {y : Int} (h : Undigited rest) :
    year? (trimStart (printYear y ++ rest)) = some (y, rest) := by
  unfold printYear
  split
  · next hy =>
      obtain ⟨n, rfl⟩ := Int.eq_ofNat_of_zero_le hy.1
      obtain ⟨c, cs, hcs, hc⟩ := exists_cons_padded 4 n
      have hlength : (padded 4 n).length = 4 := length_padded (by decide) (by omega)
      have hnumber := number?_padded (n := n) (w := 4) (a := 1) (b := 4) (by omega) (by omega) h
      have hsign {d : Char} (hd : d.isDigit = false) (ds : List Char) :
          padded 4 n ++ rest = d :: ds → False := by
        intro he
        rw [hcs, List.cons_append, List.cons.injEq] at he
        rw [← he.1, hc] at hd
        cases hd
      rw [Int.toNat_natCast, trimStart_padded, year?]
      · rw [hnumber, Option.map_some]
      · exact hsign rfl
      · exact hsign rfl
  · next hy =>
      have hnumber := number?_signed (n := y.natAbs) h
      by_cases hneg : y < 0
      · have hvalue : -(y.natAbs : Int) = y := by omega
        rw [if_pos hneg, List.cons_append, Text.trimStart_of_flush (.of_cons rfl), year?, hnumber,
          Option.map_some]
        simp only [hvalue]
      · have hvalue : (y.natAbs : Int) = y := by omega
        rw [if_neg hneg, List.cons_append, Text.trimStart_of_flush (.of_cons rfl), year?, hnumber,
          Option.map_some]
        simp only [hvalue]

/-! ### The fraction -/

/-- A fraction of `w` digits counts units of as many nanoseconds as nine digits leave. -/
theorem fraction?_padded (hw : 0 < w) (hw' : w ≤ 9) (hn : n < 10 ^ w) (h : Undigited rest) :
    fraction? ('.' :: padded w n ++ rest) = some (n * 10 ^ (9 - w), rest) := by
  have hlength := length_padded hw hn
  have hnumber := number?_padded (n := n) (w := w) (a := 1) (b := 9) (by omega) (by omega) h
  have hrest : ([] ++ rest).dropWhile Char.isDigit = rest :=
    List.dropWhile_append_of_head? (List.forall_mem_nil _) h
  rw [List.nil_append] at hrest
  rw [List.cons_append, fraction?, hnumber]
  simp only [hrest, List.length_append, hlength, Nat.add_sub_cancel]
  rfl

theorem fraction?_printFraction {nanos : Nat} (hnanos : nanos < Instant.second) :
    fraction? (printFraction nanos ++ ['Z']) = some (nanos, ['Z']) := by
  have h : Undigited ['Z'] := .of_cons rfl
  unfold Instant.second at hnanos
  unfold printFraction
  split
  · next hzero =>
      subst hzero
      rfl
  · split
    · next hmillis =>
        rw [fraction?_padded (by decide) (by decide) (by omega) h]
        congr 2
        omega
    · split
      · next hmicros =>
          rw [fraction?_padded (by decide) (by decide) (by omega) h]
          congr 2
          omega
      · rw [fraction?_padded (by decide) (by decide) (by omega) h]
        congr 2
        omega

/-! ### Instants -/

end AlertRouter.Rfc3339

namespace AlertRouter.Instant

/-- The year of an instant. -/
def year (t : Instant) : Int := (Calendar.dateOf (t.seconds / 86400)).year

/-- The instant lies in the supported years, and in no leap second but one at the end of a
minute. -/
structure Dated (t : Instant) : Prop where
  first : Calendar.firstYear ≤ t.year
  last : t.year ≤ Calendar.lastYear
  nanos : t.nanos < second ∨ t.seconds % 60 = 59 ∧ t.nanos < 2 * second

end AlertRouter.Instant

namespace AlertRouter.Rfc3339

open Text (trimStart Undigited)

/-- The fields that are written of an instant. -/
def fieldsOf (t : Instant) : Fields :=
  let time := (t.seconds % 86400).toNat
  let leap := decide (Instant.second ≤ t.nanos)
  ⟨Calendar.dateOf (t.seconds / 86400), time / 3600, time / 60 % 60,
    time % 60 + (if leap then 1 else 0), if leap then t.nanos - Instant.second else t.nanos, 0⟩

variable {t : Instant}

/-- The fields of a time on a day of the calendar denote this time. -/
theorem instant?_eq {day : Int} {hour minute second nanos : Nat}
    (hfirst : Calendar.firstYear ≤ (Calendar.dateOf day).year)
    (hlast : (Calendar.dateOf day).year ≤ Calendar.lastYear) (hhour : hour ≤ 23)
    (hminute : minute ≤ 59) (hsecond : second ≤ 60) :
    Fields.instant? ⟨Calendar.dateOf day, hour, minute, second, nanos, 0⟩ =
      some ⟨day * 86400 + hour * 3600 + minute * 60 + if second = 60 then 59 else second,
        if second = 60 then nanos + Instant.second else nanos⟩ := by
  have hvalid := Calendar.isValid_dateOf hfirst hlast
  have hday (s : Int) (hs : 0 ≤ s) (hs' : s ≤ 59) :
      (day * 86400 + hour * 3600 + minute * 60 + s - 0) / 86400 = day := by omega
  unfold Fields.instant?
  rw [if_pos ⟨hvalid, hhour, hminute, hsecond, (by decide : (-86400 : Int) < 0),
    (by decide : (0 : Int) < 86400)⟩]
  simp only [Calendar.dayNumber_dateOf, decide_eq_true_eq]
  by_cases hleap : second = 60
  · simp only [if_pos hleap]
    rw [hday 59 (by decide) (by decide), if_neg (by omega), Int.sub_zero]
    rfl
  · simp only [if_neg hleap]
    rw [hday second (by omega) (by omega), if_neg (by omega), Int.sub_zero]

theorem instant?_fieldsOf (h : t.Dated) : (fieldsOf t).instant? = some t := by
  obtain ⟨seconds, nanos⟩ := t
  have hfirst : Calendar.firstYear ≤ (Calendar.dateOf (seconds / 86400)).year := h.first
  have hlast : (Calendar.dateOf (seconds / 86400)).year ≤ Calendar.lastYear := h.last
  have hnanos : nanos < Instant.second ∨ seconds % 60 = 59 ∧ nanos < 2 * Instant.second := h.nanos
  have htime : ((seconds % 86400).toNat : Int) = seconds % 86400 := by omega
  unfold fieldsOf
  simp only
  generalize (seconds % 86400).toNat = time at htime
  by_cases hleap : Instant.second ≤ nanos
  · have hsecond : time % 60 = 59 := by omega
    simp only [hleap, decide_true, if_true, hsecond]
    rw [instant?_eq hfirst hlast (by omega) (by omega) (by omega), if_pos rfl, if_pos rfl,
      Option.some.injEq, Instant.mk.injEq]
    exact ⟨by omega, by omega⟩
  · simp only [hleap, decide_false, Bool.false_eq_true, if_false]
    rw [instant?_eq hfirst hlast (by omega) (by omega) (by omega), if_neg (by omega),
      if_neg (by omega), Option.some.injEq, Instant.mk.injEq]
    exact ⟨by omega, rfl⟩

theorem print_eq (t : Instant) : (print t).toList =
    printYear (fieldsOf t).date.year ++ '-' :: (padded 2 (fieldsOf t).date.month ++
      '-' :: (padded 2 (fieldsOf t).date.day ++ 'T' :: (padded 2 (fieldsOf t).hour ++
      ':' :: (padded 2 (fieldsOf t).minute ++ ':' :: (padded 2 (fieldsOf t).second ++
      (printFraction (fieldsOf t).nanos ++ ['Z'])))))) := by
  simp [print, fieldsOf, String.toList_ofList]

/-- The fields are written with as many digits as they are read with. -/
theorem fieldsOf_lt (h : t.Dated) : (fieldsOf t).date.month < 100 ∧ (fieldsOf t).date.day < 100 ∧
    (fieldsOf t).hour < 100 ∧ (fieldsOf t).minute < 100 ∧ (fieldsOf t).second < 100 ∧
    (fieldsOf t).nanos < Instant.second := by
  have hvalid := Calendar.isValid_dateOf h.first h.last
  have hdays := Calendar.daysInMonth_le t.year (Calendar.dateOf (t.seconds / 86400)).month
  have hnanos := h.nanos
  simp only [Calendar.isValid, Bool.decide_and, Bool.and_eq_true, decide_eq_true_eq] at hvalid
  obtain ⟨-, -, -, hmonth, -, hday⟩ := hvalid
  refine ⟨Nat.lt_of_le_of_lt hmonth (by decide),
    Nat.lt_of_le_of_lt (Nat.le_trans hday hdays) (by decide), ?_⟩
  unfold fieldsOf
  simp only [decide_eq_true_eq]
  by_cases hleap : Instant.second ≤ t.nanos
  · rw [if_pos hleap, if_pos hleap]
    omega
  · rw [if_neg hleap, if_neg hleap]
    omega

theorem undigited_printFraction (nanos : Nat) : Undigited (printFraction nanos ++ ['Z']) := by
  unfold printFraction
  repeat' split
  all_goals exact .of_cons rfl

theorem char?_self (c : Char) (cs : List Char) : char? c (c :: cs) = some cs := by simp [char?]

theorem char?_trimStart {c : Char} (hc : Unicode.isBlank c = false) (cs : List Char) :
    char? c (trimStart (c :: cs)) = some cs := by
  rw [Text.trimStart_of_flush (.of_cons hc), char?_self]

/-- The number of two digits behind a mark. -/
theorem bind_loose?_padded {behind : Option (List Char)} {n : Nat} {rest : List Char}
    (hbehind : behind = some (padded 2 n ++ rest)) (hn : n < 100) (h : Undigited rest) :
    behind.bind loose? = some (n, rest) := by
  rw [hbehind, Option.bind_some, loose?_padded hn h]

/-- The fields of a text, each read from what the one before it leaves. -/
theorem parse?_of_fields {s : String} {year offset : Int} {month day hour minute second nanos : Nat}
    {cs cs₀ cs₁ cs₂ cs₃ cs₄ cs₅ cs₆ : List Char} (hs : s.toList = cs)
    (hyear : year? (trimStart cs) = some (year, cs₀))
    (hmonth : (char? '-' (trimStart cs₀)).bind loose? = some (month, cs₁))
    (hday : (char? '-' (trimStart cs₁)).bind loose? = some (day, cs₂))
    (hhour : (separator? cs₂).bind loose? = some (hour, cs₃))
    (hminute : (char? ':' (trimStart cs₃)).bind loose? = some (minute, cs₄))
    (hsecond : (char? ':' (trimStart cs₄)).bind loose? = some (second, cs₅))
    (hnanos : fraction? cs₅ = some (nanos, cs₆))
    (hoffset : looseOffset? (trimStart cs₆) = some (offset, [])) :
    parse? s = Fields.instant? ⟨⟨year, month, day⟩, hour, minute, second, nanos, offset⟩ := by
  obtain ⟨_, hmonth₀, hmonth⟩ := Option.bind_eq_some_iff.mp hmonth
  obtain ⟨_, hday₀, hday⟩ := Option.bind_eq_some_iff.mp hday
  obtain ⟨_, hhour₀, hhour⟩ := Option.bind_eq_some_iff.mp hhour
  obtain ⟨_, hminute₀, hminute⟩ := Option.bind_eq_some_iff.mp hminute
  obtain ⟨_, hsecond₀, hsecond⟩ := Option.bind_eq_some_iff.mp hsecond
  have hnext {α β : Type} {o : Option α} {a : α} (h : o = some a) (next : α → Option β) :
      o >>= next = next a := by rw [h]; rfl
  rw [parse?, hs]
  -- From the front on: to simplify would look into what is not read yet at each step.
  exact (hnext hyear _).trans <| (hnext hmonth₀ _).trans <| (hnext hmonth _).trans <|
    (hnext hday₀ _).trans <| (hnext hday _).trans <| (hnext hhour₀ _).trans <|
    (hnext hhour _).trans <| (hnext hminute₀ _).trans <| (hnext hminute _).trans <|
    (hnext hsecond₀ _).trans <| (hnext hsecond _).trans <| (hnext hnanos _).trans <|
    hnext hoffset _

/-- **An instant that was written is read**, whatever its fraction. -/
theorem parse?_print (h : t.Dated) : parse? (print t) = some t := by
  obtain ⟨hmonth, hday, hhour, hminute, hsecond, hnanos⟩ := fieldsOf_lt h
  have hdash (cs) : Undigited ('-' :: cs) := .of_cons rfl
  have hcolon (cs) : Undigited (':' :: cs) := .of_cons rfl
  have ht (cs) : Undigited ('T' :: cs) := .of_cons rfl
  have hfields := parse?_of_fields (print_eq t) (year?_printYear (hdash _))
    (bind_loose?_padded (char?_trimStart (by decide) _) hmonth (hdash _))
    (bind_loose?_padded (char?_trimStart (by decide) _) hday (ht _))
    (bind_loose?_padded rfl hhour (hcolon _))
    (bind_loose?_padded (char?_trimStart (by decide) _) hminute (hcolon _))
    (bind_loose?_padded (char?_trimStart (by decide) _) hsecond (undigited_printFraction _))
    (fraction?_printFraction hnanos) rfl
  rw [hfields]
  exact instant?_fieldsOf h

end AlertRouter.Rfc3339
