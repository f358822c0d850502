/-! # Decimal text of binary floating-point numbers

A decimal `digits · 10 ^ exponent` is rounded to the nearest number with a 53-bit significand
(`nearest?`, ties to even), and such a number is written with the fewest digits that read back as
the same number (`shortest`), the nearest such decimal being taken.  Everything is exact arithmetic
on natural numbers.

`text` is positional from `1e-5` up to below `1e16`, with at least one digit after the point, and
scientific with a signed exponent elsewhere. -/

namespace AlertRouter.Binary64

/-- A finite non-negative number `significand · 2 ^ exponent`. -/
structure Finite where
  significand : Nat
  exponent : Int
deriving DecidableEq, Repr

/-- The least exponent. -/
def minExponent : Int := -1074

/-- The greatest exponent. -/
def maxExponent : Int := 971

/-- A ratio `num / den` with the power `base ^ e` multiplied in. -/
def scale (base : Nat) (e : Int) (r : Nat × Nat) : Nat × Nat :=
  if 0 ≤ e then (r.1 * base.pow e.toNat, r.2) else (r.1, r.2 * base.pow (-e).toNat)

/-- The natural number nearest to `num / den`, ties to even. -/
def roundDiv (num den : Nat) : Nat :=
  let q := num / den
  let r := num % den
  if 2 * r < den then q
  else if den < 2 * r then q + 1
  else if q % 2 = 0 then q else q + 1

/-- The exponent at which `num / den` gets a significand of 53 bits, or the least exponent. -/
def exponentFor (num den : Nat) : Int :=
  let e : Int := (num.log2 : Int) - den.log2 - 52
  let (a, b) := scale 2 (-e) (num, den)
  let e := if a < Nat.pow 2 52 * b then e - 1 else e
  max e minExponent

/-- The number of decimal digits. -/
def digitCount (n : Nat) : Nat := (Nat.toDigits 10 n).length

/-- The number nearest to `digits · 10 ^ exponent`; `none` beyond the largest one. -/
def nearest? (digits : Nat) (exponent : Int) : Option Finite :=
  let top : Int := digitCount digits + exponent
  if digits = 0 ∨ top < -400 then some ⟨0, minExponent⟩
  else if 400 < top then none
  else
    let (num, den) := scale 10 exponent (digits, 1)
    let e := exponentFor num den
    let (num, den) := scale 2 (-e) (num, den)
    let m := roundDiv num den
    let (m, e) := if m = Nat.pow 2 53 then (Nat.pow 2 52, e + 1) else (m, e)
    if maxExponent < e then none else some ⟨m, e⟩

/-- Does the decimal read back as the number? -/
def readsBack (x : Finite) (digits : Nat) (exponent : Int) : Bool :=
  nearest? digits exponent == some x

/-- The decimal with a unit of `10 ^ exponent` that reads back as `x` and is nearest to it. -/
def onGrid? (x : Finite) (exponent : Int) : Option Nat :=
  let (num, den) := scale 10 (-exponent) (scale 2 x.exponent (x.significand, 1))
  let low := num / den
  match readsBack x low exponent, readsBack x (low + 1) exponent with
  | true, true => some (roundDiv num den)
  | true, false => some low
  | false, true => some (low + 1)
  | false, false => none

/-- The first grid, from the coarsest of `count` grids on, that has a decimal for `x`. -/
def firstGrid (x : Finite) : Nat → Int → Nat × Int
  | 0, exponent => (x.significand, exponent)
  | count + 1, exponent =>
    match onGrid? x exponent with
    | some d => (d, exponent)
    | none => firstGrid x count (exponent - 1)

/-- The decimal exponent of the leading digit, or one more. -/
def leadingExponent (x : Finite) : Int :=
  let (num, den) := scale 2 x.exponent (x.significand, 1)
  if den ≤ num then digitCount (num / den) else 1 - digitCount (den / num)

/-- Drops trailing zeros, counting them into the exponent; `fuel` bounds their number. -/
def dropZeros : Nat → Nat → Int → Nat × Int
  | 0, d, e => (d, e)
  | fuel + 1, d, e => if d ≠ 0 ∧ d % 10 = 0 then dropZeros fuel (d / 10) (e + 1) else (d, e)

/-- The shortest decimal that reads back as `x`: digits and exponent. -/
def shortest (x : Finite) : Nat × Int :=
  if x.significand = 0 then (0, 0)
  else
    let (d, e) := firstGrid x 20 (leadingExponent x)
    dropZeros 20 d e

/-- The text of a decimal: its digits and the exponent of the last one. -/
def decimalText (digits : Nat) (exponent : Int) : String :=
  let ds := Nat.toDigits 10 digits
  let point : Int := ds.length + exponent
  let text :=
    if digits = 0 then ['0', '.', '0']
    else if 0 ≤ exponent ∧ point ≤ 16 then ds ++ List.replicate exponent.toNat '0' ++ ['.', '0']
    else if 0 < point ∧ point ≤ 16 then ds.take point.toNat ++ '.' :: ds.drop point.toNat
    else if -5 < point ∧ point ≤ 0 then '0' :: '.' :: List.replicate (-point).toNat '0' ++ ds
    else
      let e := point - 1
      let sign := if 0 ≤ e then '+' else '-'
      ds.take 1 ++ (if ds.length = 1 then [] else '.' :: ds.drop 1) ++
        'e' :: sign :: Nat.toDigits 10 e.natAbs
  String.ofList text

/-- The text of the number nearest to a decimal. -/
def text (negative : Bool) (digits : Nat) (exponent : Int) : String :=
  let body := match nearest? digits exponent with
    | some x => let (d, e) := shortest x; decimalText d e
    | none => "inf"
  if negative then "-" ++ body else body

end AlertRouter.Binary64
