import AlertRouter.Doc.Codec
import AlertRouter.Text.Trim
import AlertRouter.Time.Calendar
import AlertRouter.Time.Instant

/-! # Instants as text

Instants are written as RFC 3339 in UTC, with no fraction or one of 3, 6 or 9 digits, whichever is
the shortest that loses nothing.  There are two readers.

* `parseStrict?` takes RFC 3339 with any offset.
* `parse?` also takes blanks around the numbers, numbers without leading zeros, years with a sign,
  offsets without a colon and `UTC`.

Both take fractions of any length, of which nine digits count, and the leap second `60`. -/

namespace AlertRouter.Rfc3339

open Text (trimStart)

/-! ### Writing -/

/-- At least `width` decimal digits. -/
def padded (width n : Nat) : List Char :=
  let ds := Nat.toDigits 10 n
  List.replicate (width - ds.length) '0' ++ ds

/-- Four digits; years outside of 0 … 9999 carry a sign. -/
def printYear (y : Int) : List Char :=
  if 0 ≤ y ∧ y ≤ 9999 then padded 4 y.toNat
  else (if y < 0 then '-' else '+') :: padded 4 y.natAbs

/-- The fraction of a second with the fewest groups of three digits. -/
def printFraction (nanos : Nat) : List Char :=
  if nanos = 0 then []
  else if nanos % 1000000 = 0 then '.' :: padded 3 (nanos / 1000000)
  else if nanos % 1000 = 0 then '.' :: padded 6 (nanos / 1000)
  else '.' :: padded 9 nanos

def print (t : Instant) : String :=
  let date := Calendar.dateOf (t.seconds / 86400)
  let time := (t.seconds % 86400).toNat
  let leap := decide (Instant.second ≤ t.nanos)
  let second := time % 60 + (if leap then 1 else 0)
  let nanos := if leap then t.nanos - Instant.second else t.nanos
  String.ofList <|
    printYear date.year ++ '-' :: padded 2 date.month ++ '-' :: padded 2 date.day ++
    'T' :: padded 2 (time / 3600) ++ ':' :: padded 2 (time / 60 % 60) ++
    ':' :: padded 2 second ++ printFraction nanos ++ ['Z']

/-! ### Reading -/

def digitsValue (ds : List Char) : Nat :=
  ds.foldl (fun n d => 10 * n + (d.toNat - '0'.toNat)) 0

/-- A number of `least` to `most` digits in front, and the rest. -/
def number? (least most : Nat) (cs : List Char) : Option (Nat × List Char) :=
  let ds := (cs.take most).takeWhile Char.isDigit
  if ds.length < least then none else some (digitsValue ds, cs.drop ds.length)

/-- Expects a character. -/
def char? (c : Char) : List Char → Option (List Char)
  | d :: rest => if d = c then some rest else none
  | [] => none

/-- A fraction in nanoseconds, zero without a point. -/
def fraction? : List Char → Option (Nat × List Char)
  | '.' :: cs => match number? 1 9 cs with
    | none => none
    | some (n, rest) =>
      let given := cs.length - rest.length
      some (n * Nat.pow 10 (9 - given), rest.dropWhile Char.isDigit)
  | cs => some (0, cs)

/-- The offset from UTC in seconds; `colon` takes what stands between hours and minutes. -/
def offset? (colon : List Char → Option (List Char)) : List Char → Option (Int × List Char)
  | [] => none
  | z :: cs =>
    if z = 'Z' ∨ z = 'z' then some (0, cs)
    else if z = '+' ∨ z = '-' ∨ z = '−' then
      match number? 2 2 cs with
      | none => none
      | some (hours, cs) => match colon cs with
        | none => none
        | some cs => match number? 2 2 cs with
          | none => none
          | some (minutes, cs) =>
            if 59 < minutes then none
            else
              let n : Int := hours * 3600 + minutes * 60
              some (if z = '+' then n else -n, cs)
    else none

/-- The fields of a date and time with its offset. -/
structure Fields where
  date : Calendar.Date
  hour : Nat
  minute : Nat
  second : Nat
  nanos : Nat
  offset : Int

/-- The instant that the fields denote, if they denote one. -/
def Fields.instant? (f : Fields) : Option Instant :=
  if Calendar.isValid f.date ∧ f.hour ≤ 23 ∧ f.minute ≤ 59 ∧ f.second ≤ 60 ∧
      -86400 < f.offset ∧ f.offset < 86400 then
    let leap := decide (f.second = 60)
    let second : Int := if leap then 59 else f.second
    let seconds := Calendar.dayNumber f.date * 86400 + f.hour * 3600 + f.minute * 60 + second
      - f.offset
    let year := (Calendar.dateOf (seconds / 86400)).year
    if year < Calendar.firstYear ∨ Calendar.lastYear < year then none
    else some ⟨seconds, if leap then f.nanos + Instant.second else f.nanos⟩
  else none

/-- The separator of date and time. -/
def separator? : List Char → Option (List Char)
  | c :: rest => if c = 'T' ∨ c = 't' ∨ c = ' ' then some rest else none
  | [] => none

/-- RFC 3339, to the end of the text. -/
def parseStrict? (s : String) : Option Instant := do
  let (year, cs) ← number? 4 4 s.toList
  let (month, cs) ← number? 2 2 (← char? '-' cs)
  let (day, cs) ← number? 2 2 (← char? '-' cs)
  let (hour, cs) ← number? 2 2 (← separator? cs)
  let (minute, cs) ← number? 2 2 (← char? ':' cs)
  let (second, cs) ← number? 2 2 (← char? ':' cs)
  let (nanos, cs) ← fraction? cs
  let (offset, cs) ← offset? (char? ':') cs
  if cs.isEmpty then Fields.instant? ⟨⟨year, month, day⟩, hour, minute, second, nanos, offset⟩
  else none

/-- A year: a sign and any number of digits, or up to four digits. -/
def year? (cs : List Char) : Option (Int × List Char) :=
  match cs with
  | '-' :: rest => (number? 1 rest.length rest).map fun (n, rest) => (-(n : Int), rest)
  | '+' :: rest => (number? 1 rest.length rest).map fun (n, rest) => ((n : Int), rest)
  | _ => (number? 1 4 cs).map fun (n, rest) => ((n : Int), rest)

/-- One or two digits after optional blanks. -/
def loose? (cs : List Char) : Option (Nat × List Char) := number? 1 2 (trimStart cs)

/-- Any number of colons and blanks. -/
def looseColon (cs : List Char) : Option (List Char) :=
  some (cs.dropWhile fun c => c == ':' || Unicode.isBlank c)

/-- `UTC` in any case, or an offset. -/
def looseOffset? (cs : List Char) : Option (Int × List Char) :=
  if (cs.take 3).map Char.toUpper = ['U', 'T', 'C'] then some (0, cs.drop 3)
  else offset? looseColon cs

/-- A date and time with its offset, in the relaxed form, to the end of the text. -/
def parse? (s : String) : Option Instant := do
  let (year, cs) ← year? (trimStart s.toList)
  let (month, cs) ← loose? (← char? '-' (trimStart cs))
  let (day, cs) ← loose? (← char? '-' (trimStart cs))
  let (hour, cs) ← loose? (← separator? cs)
  let (minute, cs) ← loose? (← char? ':' (trimStart cs))
  let (second, cs) ← loose? (← char? ':' (trimStart cs))
  let (nanos, cs) ← fraction? cs
  let (offset, cs) ← looseOffset? (trimStart cs)
  if (trimStart cs).isEmpty then
    Fields.instant? ⟨⟨year, month, day⟩, hour, minute, second, nanos, offset⟩
  else none

/-- Instants in documents: texts of the relaxed form. -/
def codec : Codec Instant :=
  .parsed "an RFC 3339 formatted date and time string"
    (fun s => match parse? s with
      | some t => .ok t
      | none => .error "invalid timestamp")
    print

end AlertRouter.Rfc3339
