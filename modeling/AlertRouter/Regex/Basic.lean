import AlertRouter.Regex.CharSet
import Std.Data.HashSet

/-! # Regular expressions

Regular expressions with assertions about the place they stand at (starts and ends of the text and
of lines, boundaries of words), and their search by partial derivatives.

A place in a text is known by the character before it and the character after it.  At a place,
`nullable` says whether an expression matches nothing, and `step` gives the expressions one of which
has to match after the next character.  The search keeps a set of such expressions, so its cost per
character does not grow with the text. -/

namespace AlertRouter

namespace Regex

/-- An assertion about a place in the text. -/
inductive Look where
  | start
  | stop
  | lineStart (crlf : Bool)
  | lineStop (crlf : Bool)
  | boundary (unicode : Bool)
  | noBoundary (unicode : Bool)
  | wordStart (unicode : Bool)
  | wordStop (unicode : Bool)
  | wordStartHalf (unicode : Bool)
  | wordStopHalf (unicode : Bool)
deriving DecidableEq, Hashable, Repr

namespace Look

/-- Is the neighbour a character of a word? -/
def isWord (unicode : Bool) : Option Char → Bool
  | some c => if unicode then Unicode.isWord c else CharSet.asciiWord.contains c
  | none => false

/-- Does the assertion hold between two neighbours? -/
def holds (prev next : Option Char) : Look → Bool
  | start => prev.isNone
  | stop => next.isNone
  | lineStart false => prev.isNone || prev == some '\n'
  | lineStop false => next.isNone || next == some '\n'
  | lineStart true =>
    prev.isNone || prev == some '\n' || (prev == some '\r' && next != some '\n')
  | lineStop true =>
    next.isNone || next == some '\r' || (next == some '\n' && prev != some '\r')
  | boundary u => isWord u prev != isWord u next
  | noBoundary u => isWord u prev == isWord u next
  | wordStart u => !isWord u prev && isWord u next
  | wordStop u => isWord u prev && !isWord u next
  | wordStartHalf u => !isWord u prev
  | wordStopHalf u => !isWord u next

end Look

end Regex

/-- A regular expression.  `loop r least most` repeats `r`, without a bound if `most` is absent. -/
inductive Regex where
  | empty
  | chars (s : Regex.CharSet)
  | look (l : Regex.Look)
  | seq (r s : Regex)
  | alt (r s : Regex)
  | loop (r : Regex) (least : Nat) (most : Option Nat)
deriving DecidableEq, Hashable, Repr

namespace Regex

/-- Does the expression match nothing, between these neighbours? -/
def nullable (prev next : Option Char) : Regex → Bool
  | empty => true
  | chars _ => false
  | look l => l.holds prev next
  | seq r s => nullable prev next r && nullable prev next s
  | alt r s => nullable prev next r || nullable prev next s
  | loop r least _ => least == 0 || nullable prev next r

/-- One expression after another; the empty one in front is dropped. -/
def andThen (s : Regex) : Regex → Regex
  | empty => s
  | r => seq r s

/-- What may follow once the next character `c` has been taken, after the character `prev`.  A loop
whose body matches nothing here may do so as often as it has to. -/
def step (prev : Option Char) (c : Char) : Regex → List Regex
  | empty => []
  | chars s => if s.contains c then [empty] else []
  | look _ => []
  | seq r s =>
    (step prev c r).map (andThen s) ++ (if nullable prev (some c) r then step prev c s else [])
  | alt r s => step prev c r ++ step prev c s
  | loop r least most =>
    if most = some 0 then []
    else
      let least := if nullable prev (some c) r then 0 else least - 1
      (step prev c r).map (andThen (loop r least (most.map (· - 1))))

/-- The expressions of a list that are not in `seen`, each once. -/
def distinctFrom (seen : Std.HashSet Regex) : List Regex → List Regex
  | [] => []
  | r :: rs => if r ∈ seen then distinctFrom seen rs else r :: distinctFrom (seen.insert r) rs

/-- The list without repetitions.  A short one is searched, which is faster than hashing. -/
def distinct (rs : List Regex) : List Regex :=
  if rs.length ≤ 16 then rs.eraseDups else distinctFrom ∅ rs

theorem mem_distinctFrom {r : Regex} {rs : List Regex} {seen : Std.HashSet Regex} :
    r ∈ distinctFrom seen rs ↔ r ∈ rs ∧ r ∉ seen := by
  induction rs generalizing seen with
  | nil => simp [distinctFrom]
  | cons s rs ih =>
    rw [distinctFrom]
    split
    · next h =>
      rw [ih, List.mem_cons]
      exact ⟨fun ⟨hr, hs⟩ => ⟨.inr hr, hs⟩,
        fun ⟨hr, hs⟩ => ⟨hr.resolve_left (fun e => hs (e ▸ h)), hs⟩⟩
    · next h =>
      by_cases e : r = s
      · simp [e, h]
      · have e' : ¬ s = r := fun e' => e e'.symm
        simp [ih, Std.HashSet.mem_insert, e, e']

theorem mem_distinct {r : Regex} {rs : List Regex} : r ∈ distinct rs ↔ r ∈ rs := by
  rw [distinct]
  split
  · exact List.mem_eraseDups
  · simp [mem_distinctFrom]

/-- Does one of the expressions, or `r` from any place on, match at some place? -/
def searchFrom (r : Regex) (prev : Option Char) (active : List Regex) : List Char → Bool
  | [] => (r :: active).any (nullable prev none)
  | c :: cs =>
    (r :: active).any (nullable prev (some c)) ||
      searchFrom r (some c) (distinct ((r :: active).flatMap (step prev c))) cs

/-- Does the expression match some part of the text? -/
def isMatch (r : Regex) (s : String) : Bool := searchFrom r none [] s.toList

end Regex

end AlertRouter
