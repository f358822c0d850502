/-! # Instants

A point in time is a number of seconds since 1970 and a fraction in nanoseconds.  A fraction of a
thousand million or more stands for a leap second: time that passes after the given second and
before the next one.  Instants are compared by seconds, then by fraction.

Durations are nanoseconds, or whole seconds where the name says so.  Moving by a duration leaves
the leap second (`addSeconds`, `sub?`), unless the time remains within it or the second before, and
moving back fails beyond the supported calendar. -/

namespace AlertRouter

structure Instant where
  seconds : Int
  nanos : Nat
deriving DecidableEq, Repr

namespace Instant

instance : Inhabited Instant := ⟨⟨0, 0⟩⟩

/-- Is `a` before `b`? -/
def before (a b : Instant) : Prop :=
  a.seconds < b.seconds ∨ a.seconds = b.seconds ∧ a.nanos < b.nanos

instance : LT Instant := ⟨before⟩
instance : LE Instant := ⟨fun a b => ¬ before b a⟩

instance (a b : Instant) : Decidable (a < b) :=
  inferInstanceAs (Decidable (_ ∨ _ ∧ _))

instance (a b : Instant) : Decidable (a ≤ b) :=
  inferInstanceAs (Decidable (¬ (_ ∨ _ ∧ _)))

theorem lt_iff {a b : Instant} :
    a < b ↔ a.seconds < b.seconds ∨ a.seconds = b.seconds ∧ a.nanos < b.nanos := Iff.rfl

theorem le_iff {a b : Instant} :
    a ≤ b ↔ a.seconds < b.seconds ∨ a.seconds = b.seconds ∧ a.nanos ≤ b.nanos := by
  show ¬ (b.seconds < a.seconds ∨ b.seconds = a.seconds ∧ b.nanos < a.nanos) ↔ _
  omega

theorem not_lt {a b : Instant} : ¬ a < b ↔ b ≤ a := Iff.rfl

theorem not_le {a b : Instant} : ¬ a ≤ b ↔ b < a := by rw [le_iff, lt_iff]; omega

theorem le_refl (a : Instant) : a ≤ a := by rw [le_iff]; omega

theorem le_trans {a b c : Instant} (h : a ≤ b) (h' : b ≤ c) : a ≤ c := by
  rw [le_iff] at *; omega

theorem lt_of_lt_of_le {a b c : Instant} (h : a < b) (h' : b ≤ c) : a < c := by
  rw [lt_iff] at *; rw [le_iff] at h'; omega

theorem lt_of_le_of_lt {a b c : Instant} (h : a ≤ b) (h' : b < c) : a < c := by
  rw [lt_iff] at *; rw [le_iff] at h; omega

theorem le_antisymm {a b : Instant} (h : a ≤ b) (h' : b ≤ a) : a = b := by
  cases a; cases b
  rw [le_iff] at *
  simp only [mk.injEq] at *
  omega

theorem le_total (a b : Instant) : a ≤ b ∨ b ≤ a := by
  rw [le_iff, le_iff]; omega

/-- The earlier of two instants. -/
def min (a b : Instant) : Instant := if b < a then b else a

theorem min_le_right (a b : Instant) : a.min b ≤ b := by
  unfold min
  split
  · exact le_refl b
  · next h => exact not_lt.mp h

theorem lt_min_iff {a b c : Instant} : c < a.min b ↔ c < a ∧ c < b := by
  unfold min
  split
  · next h => rw [lt_iff] at h; rw [lt_iff, lt_iff]; omega
  · next h => rw [not_lt, le_iff] at h; rw [lt_iff, lt_iff]; omega

/-- The nanoseconds of a second. -/
def second : Nat := 1000000000

/-- The instant `n` seconds later. -/
def addSeconds (t : Instant) (n : Nat) : Instant :=
  if n = 0 then t
  else ⟨t.seconds + n, if second ≤ t.nanos then t.nanos - second else t.nanos⟩

/-- The first second of the calendar: the first day of the year -262143. -/
def firstSecond : Int := -8334601228800

/-- The last second of the calendar: the last day of the year 262142. -/
def lastSecond : Int := 8210266876799

/-- The longest duration, in nanoseconds: as many milliseconds as fit into 63 bits. -/
def longest : Int := 9223372036854775807 * 1000000

/-- The nanoseconds since 1970, those of a leap second being counted into the second after it. -/
def elapsed (t : Instant) : Int := t.seconds * second + t.nanos

/-- The instant so many nanoseconds after 1970; it is in no leap second. -/
def ofElapsed (n : Int) : Instant := ⟨n / second, (n % second).toNat⟩

/-- The instant `d` nanoseconds earlier, or later if `d` is negative, unless that is beyond the
calendar.  Out of a leap second it is a whole second more to what comes later. -/
def sub? (t : Instant) (d : Int) : Option Instant :=
  if d = 0 then some t
  else if second ≤ t.nanos ∧ d.natAbs < second ∧ t.nanos - d < 2 * second then
    some ⟨t.seconds, (t.nanos - d).toNat⟩
  else
    let moved := ofElapsed (t.elapsed - d - if second ≤ t.nanos ∧ d < 0 then second else 0)
    if moved.seconds < firstSecond ∨ lastSecond < moved.seconds then none else some moved

/-- The instant `n` seconds earlier, or later if `n` is negative, unless that is beyond the
calendar. -/
def subSeconds? (t : Instant) (n : Int) : Option Instant := t.sub? (n * second)

/-- The first second of the year 1, which stands for a missing time. -/
def zeroSecond : Int := -62135596800

/-- A time that was left out: within the first second of the year 1. -/
def isZero (t : Instant) : Bool := t.seconds == zeroSecond

end Instant

end AlertRouter
