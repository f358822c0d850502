/-! # Tables over the code points

A property of characters is stored as a text that lists runs of code points and is decoded once.

* `Runs`: every code point has a class.  The text names the classes of consecutive runs with their
  lengths (`Cc32 Zs1 …`).
* `Ranges`: a set of code points.  The text lists its maximal ranges (`65-90 97-122 …`).

Both are searched by bisection (`bisect`). -/

namespace AlertRouter.Unicode

/-- The number that a list of decimal digits denotes. -/
def decimal (digits : List Char) : Nat :=
  digits.foldl (fun n d => 10 * n + (d.toNat - '0'.toNat)) 0

/-- The least index from `lo` on, below `hi`, at which the increasing test `p` holds;
`hi` if there is none. -/
def bisect (p : Nat → Bool) (lo hi : Nat) : Nat :=
  if lo < hi then
    let mid := (lo + hi) / 2
    if p mid then bisect p lo mid else bisect p (mid + 1) hi
  else lo
termination_by hi - lo

/-- Consecutive runs from code point 0 on: where each stops (exclusive) and its class. -/
abbrev Runs (α : Type) := Array (Nat × α)

namespace Runs

/-- Reads runs written as a class name followed by a length. -/
def ofText {α : Type} (cls : String → α) (text : String) : Runs α :=
  let step := fun (acc : Nat × Array (Nat × α)) (token : String) =>
    let cs := token.toList
    let stop := acc.1 + decimal (cs.dropWhile (! ·.isDigit))
    (stop, acc.2.push (stop, cls (String.ofList (cs.takeWhile (! ·.isDigit)))))
  ((text.splitOn " ").foldl step (0, #[])).2

/-- The class of a code point, `fallback` past the last run. -/
def get {α : Type} (runs : Runs α) (fallback : α) (code : Nat) : α :=
  let above := fun i => match runs[i]? with
    | some (stop, _) => decide (code < stop)
    | none => true
  match runs[bisect above 0 runs.size]? with
  | some (_, cls) => cls
  | none => fallback

end Runs

/-- A set of code points: its maximal ranges, both ends included, in increasing order. -/
abbrev Ranges := Array (Nat × Nat)

namespace Ranges

/-- Reads ranges written as `first-last`, or as one number. -/
def ofText (text : String) : Ranges :=
  ((text.splitOn " ").map fun token =>
    let cs := token.toList
    let first := cs.takeWhile (· != '-')
    let last := (cs.dropWhile (· != '-')).drop 1
    (decimal first, decimal (if last.isEmpty then first else last))).toArray

def contains (ranges : Ranges) (code : Nat) : Bool :=
  let reaches := fun i => match ranges[i]? with
    | some (_, last) => decide (code ≤ last)
    | none => true
  match ranges[bisect reaches 0 ranges.size]? with
  | some (first, _) => decide (first ≤ code)
  | none => false

end Ranges

end AlertRouter.Unicode
