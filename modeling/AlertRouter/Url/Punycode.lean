/-! # Punycode

A text as ASCII: its ASCII characters in order, a hyphen, and then for every other character, in
increasing order, the distance from the one before as a number with digits of variable base.

Digits run from `a` to `z`, then from `0` to `9`.  The threshold of a digit depends on its place and
on a bias that follows the size of the earlier distances. -/

namespace AlertRouter.Punycode

def firstCode : Nat := 128
def firstBias : Nat := 72

/-- Shrinks a distance to the size that the bias is made for, counting steps of 36. -/
def shrink (k delta : Nat) : Nat :=
  if 455 < delta then shrink (k + 36) (delta / 35) else k + 36 * delta / (delta + 38)
termination_by delta

/-- The bias after a distance, given how many characters there are now. -/
def adapt (delta count : Nat) (isFirst : Bool) : Nat :=
  let delta := if isFirst then delta / 700 else delta / 2
  shrink 0 (delta + delta / count)

/-- The threshold of the digit at place `k`. -/
def threshold (bias k : Nat) : Nat :=
  if k ≤ bias + 1 then 1 else if bias + 26 ≤ k then 26 else k - bias

theorem threshold_bounds (bias k : Nat) : 1 ≤ threshold bias k ∧ threshold bias k ≤ 26 := by
  unfold threshold; split <;> (try split) <;> omega

def digit (n : Nat) : Char := Char.ofNat (if n < 26 then n + 'a'.toNat else n - 26 + '0'.toNat)

/-- The digits of a distance from place `k` on. -/
def digits (bias k q : Nat) : List Char :=
  let t := threshold bias k
  if q < t then [digit q]
  else digit (t + (q - t) % (36 - t)) :: digits bias (k + 36) ((q - t) / (36 - t))
termination_by q
decreasing_by
  have := threshold_bounds bias k
  have : (q - threshold bias k) / (36 - threshold bias k) ≤ q - threshold bias k :=
    Nat.div_le_self _ _
  omega

/-- The state of an encoder: the distance so far, the bias, and how many characters are written. -/
structure Progress where
  delta : Nat
  bias : Nat
  count : Nat
  basic : Nat
  output : List Char

/-- Passes one character of the text while all characters `n` are written. -/
def Progress.pass (n : Nat) (p : Progress) (c : Nat) : Progress :=
  if c < n then { p with delta := p.delta + 1 }
  else if c = n then
    { p with
      delta := 0
      bias := adapt p.delta (p.count + 1) (p.count == p.basic)
      count := p.count + 1
      output := p.output ++ digits p.bias 36 p.delta }
  else p

/-- Writes the characters with the codes `ns`, which increase; `last` is where the codes stand. -/
def encodeFrom (codes : List Nat) : Nat → List Nat → Progress → List Char
  | _, [], p => p.output
  | last, n :: ns, p =>
    let p := { p with delta := p.delta + (n - last) * (p.count + 1) }
    let p := codes.foldl (Progress.pass n) p
    encodeFrom codes (n + 1) ns { p with delta := p.delta + 1 }

def insertSorted (n : Nat) : List Nat → List Nat
  | [] => [n]
  | m :: ms => if n < m then n :: m :: ms else if n = m then m :: ms else m :: insertSorted n ms

def encode (cs : List Char) : List Char :=
  let basic := cs.filter fun c => c.toNat < firstCode
  let codes := cs.map Char.toNat
  let others := (codes.filter (firstCode ≤ ·)).foldl (fun ns n => insertSorted n ns) []
  let start := if basic.isEmpty then [] else basic ++ ['-']
  encodeFrom codes firstCode others ⟨0, firstBias, basic.length, basic.length, start⟩

def digitValue? (c : Char) : Option Nat :=
  if 'a' ≤ c ∧ c ≤ 'z' then some (c.toNat - 'a'.toNat)
  else if 'A' ≤ c ∧ c ≤ 'Z' then some (c.toNat - 'A'.toNat)
  else if c.isDigit then some (c.toNat - '0'.toNat + 26)
  else none

/-- Reads one distance: its digits from place `k` on with weight `w`, and the rest. -/
def distance? (bias : Nat) : Nat → Nat → Nat → List Char → Option (Nat × List Char)
  | _, _, _, [] => none
  | k, w, n, c :: cs => match digitValue? c with
    | none => none
    | some d =>
      let t := threshold bias k
      if d < t then some (n + d * w, cs) else distance? bias (k + 36) (w * (36 - t)) (n + d * w) cs

/-- Inserts the characters whose distances follow; `fuel` bounds their number.  `n` is the code of
the last one inserted and `i` the position after it. -/
def decodeFrom : Nat → Nat → Nat → Nat → List Nat → List Char → Option (List Nat)
  | _, _, _, _, out, [] => some out
  | 0, _, _, _, _, _ => none
  | fuel + 1, n, i, bias, out, cs => match distance? bias 36 1 0 cs with
    | none => none
    | some (delta, rest) =>
      let count := out.length + 1
      let n := n + (i + delta) / count
      let place := (i + delta) % count
      if 0x10FFFF < n then none
      else
        decodeFrom fuel n (place + 1) (adapt delta count (i == 0))
          (out.take place ++ n :: out.drop place) rest

/-- The text of an encoding, if it is one. -/
def decode? (cs : List Char) : Option (List Char) :=
  let back := cs.reverse
  let tail := (back.takeWhile (· != '-')).reverse
  let basic := ((back.dropWhile (· != '-')).drop 1).reverse
  (decodeFrom tail.length firstCode 0 firstBias (basic.map Char.toNat) tail).map (·.map Char.ofNat)

end AlertRouter.Punycode
