import AlertRouter.Regex.Pattern.Escape

/-! # Bracketed classes

`[…]` lists characters, ranges, escapes and further classes; `&&`, `--` and `~~` combine what stands
on their two sides, from left to right. -/

namespace AlertRouter.Regex.Pattern

/-- How the two sides of an operator in a class are combined. -/
inductive SetOp where
  | inter
  | diff
  | symmDiff
deriving DecidableEq, Repr

def SetOp.apply : SetOp → CharSet → CharSet → CharSet
  | inter => .inter
  | diff => .diff
  | symmDiff => .symmDiff

/-- A class whose closing bracket has not been read: what stands before the last operator, and the
items after it. -/
structure OpenClass where
  negated : Bool
  left : Option (SetOp × CharSet)
  items : CharSet

namespace OpenClass

def add (o : OpenClass) (s : CharSet) : OpenClass := { o with items := .union o.items s }

/-- The set so far, without the negation. -/
def value (f : Flags) (o : OpenClass) : CharSet :=
  match o.left with
  | none => o.items
  | some (op, left) => op.apply (folded f left) (folded f o.items)

/-- Starts the right-hand side of an operator. -/
def operator (f : Flags) (o : OpenClass) (op : SetOp) : OpenClass :=
  { o with left := some (op, o.value f), items := .none }

/-- The finished class; without Unicode it has to stay in ASCII. -/
def close? (f : Flags) (o : OpenClass) : Option CharSet :=
  let s := folded f (o.value f)
  if o.negated then (if f.unicode then some (.compl s) else none) else some s

end OpenClass

/-- The hyphens that stand first in a class are literal; so is a bracket that stands first. -/
def leadingHyphens (f : Flags) : List Char → Nat × List Char
  | '-' :: cs => let (n, rest) := leadingHyphens f cs; (n + 1, rest)
  | cs => (0, cs)

/-- What follows an opening bracket. -/
def openClass? (f : Flags) (cs : List Char) : Option (OpenClass × List Char) :=
  match nextChar? f cs with
  | none => none
  | some (c, rest) =>
    let (negated, cs) := if c = '^' then (true, skipSpace f.extended rest) else (false, c :: rest)
    let (hyphens, cs) := leadingHyphens f cs
    let cs := skipSpace f.extended cs
    let items := if hyphens = 0 then CharSet.none else .single '-'
    match cs with
    | [] => none
    | ']' :: rest =>
      if hyphens = 0 then
        let rest := skipSpace f.extended rest
        if rest.isEmpty then none else some (⟨negated, none, .single ']'⟩, rest)
      else some (⟨negated, none, items⟩, cs)
    | _ => some (⟨negated, none, items⟩, cs)

/-- A class between `[:` and `:]`, from what follows the opening bracket. -/
def asciiClass? (f : Flags) (cs : List Char) : Option (CharSet × List Char) :=
  match cs with
  | ':' :: cs =>
    let (negated, cs) := match cs with
      | '^' :: cs => (true, cs)
      | cs => (false, cs)
    let name := cs.takeWhile (· != ':')
    match cs.drop name.length with
    | ':' :: ']' :: rest => (CharSet.named? (String.ofList name)).bind fun s =>
        if negated then (if f.unicode then some (.compl s, rest) else none) else some (s, rest)
    | _ => none
  | _ => none

/-- One character or escape of a class. -/
def classItem? (f : Flags) : List Char → Option (Primitive × List Char)
  | [] => none
  | '\\' :: rest => escape? f rest
  | c :: rest => some (.literal c, rest)

/-- An item of a class, or a range if a hyphen follows that is neither last nor doubled. -/
def classRange? (f : Flags) (cs : List Char) : Option (CharSet × List Char) :=
  match classItem? f cs with
  | none => none
  | some (first, rest) =>
    let rest := skipSpace f.extended rest
    let single : Option (CharSet × List Char) := match first with
      | .literal c => some (.single c, rest)
      | .class s => some (s, rest)
      | .assertion _ => none
    match rest with
    | [] => none
    | '-' :: more =>
      match skipSpace f.extended more with
      | [] => none
      | ']' :: _ => single
      | '-' :: _ => single
      | more => match first, classItem? f more with
        | .literal a, some (.literal b, rest) =>
          if a.toNat ≤ b.toNat then some (.range a b, rest) else none
        | _, _ => none
    | _ => single

/-- Reads classes up to the bracket that closes the outermost one.  `outer` holds the enclosing
classes; `fuel` bounds the number of items. -/
def classBody? (f : Flags) : Nat → List OpenClass → OpenClass → List Char →
    Option (CharSet × List Char)
  | 0, _, _, _ => none
  | fuel + 1, outer, o, cs =>
    match skipSpace f.extended cs with
    | [] => none
    | '[' :: rest => match asciiClass? f rest with
      | some (s, rest) => classBody? f fuel outer (o.add s) rest
      | none => match openClass? f rest with
        | some (inner, rest) => classBody? f fuel (o :: outer) inner rest
        | none => none
    | ']' :: rest => match o.close? f with
      | none => none
      | some s => match outer with
        | [] => some (s, rest)
        | parent :: outer => classBody? f fuel outer (parent.add s) rest
    | '&' :: '&' :: rest => classBody? f fuel outer (o.operator f .inter) rest
    | '-' :: '-' :: rest => classBody? f fuel outer (o.operator f .diff) rest
    | '~' :: '~' :: rest => classBody? f fuel outer (o.operator f .symmDiff) rest
    | cs => match classRange? f cs with
      | some (s, rest) => classBody? f fuel outer (o.add s) rest
      | none => none

/-- A bracketed class, from what follows its opening bracket. -/
def class? (f : Flags) (cs : List Char) : Option (CharSet × List Char) :=
  match openClass? f cs with
  | some (o, rest) => classBody? f (rest.length + 1) [] o rest
  | none => none

end AlertRouter.Regex.Pattern
