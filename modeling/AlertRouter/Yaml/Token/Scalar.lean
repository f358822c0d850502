import AlertRouter.Yaml.Cursor

/-! # Scalars in YAML texts

Readers for the five forms of scalars: without quotes, between single or double quotes, and as
literal or folded blocks.  Each starts where its scalar starts. -/

namespace AlertRouter.Yaml

/-! ### Unquoted scalars -/

/-- Do these characters end an unquoted scalar?  A colon inside brackets must not stand before a
mark of theirs; then there is no answer. -/
def plainEnds? (inFlow : Bool) (cs : List Char) : Option Bool :=
  match cs with
  | ':' :: rest =>
    if inFlow && rest.head?.any fun c => [',', '?', '[', ']', '\x7b', '\x7d'].contains c then none
    else some (atBlank rest)
  | c :: _ => some (inFlow && [',', '[', ']', '\x7b', '\x7d'].contains c)
  | [] => some true

/-- The part of an unquoted scalar up to the next blank or to its end. -/
def plainWord? (inFlow : Bool) : Nat → List Char → Cursor → Option (List Char × Cursor)
  | 0, acc, c => some (acc.reverse, c)
  | fuel + 1, acc, c =>
    if atBlank c.rest then some (acc.reverse, c)
    else match plainEnds? inFlow c.rest, c.rest with
      | none, _ => none
      | some true, _ => some (acc.reverse, c)
      | some false, x :: _ => plainWord? inFlow fuel (x :: acc) (c.skip 1)
      | some false, [] => some (acc.reverse, c)

/-- Reads an unquoted scalar, `gap` being the blanks before its next part; gives its text and
whether it ends with a line end.  In block form its lines have to be indented by `indent`. -/
def plainScalar? (inFlow : Bool) (indent : Nat) :
    Nat → List Char → Gap → Cursor → Option (List Char × Bool × Cursor)
  | 0, acc, gap, c => some (acc, gap.broken, c)
  | fuel + 1, acc, gap, c =>
    if c.atDocumentMark || c.isAt '#' then some (acc, gap.broken, c)
    else match plainWord? inFlow (c.rest.length + 1) [] c with
      | none => none
      | some (word, c') =>
        let acc := if word.isEmpty then acc else acc ++ gap.text ++ word
        let gap := if word.isEmpty then gap else .none false
        if c'.peek?.any fun x => isGap x || isBreak x then
          match Gap.read? indent (c'.rest.length + 1) gap c' with
          | none => none
          | some (gap, c') =>
            if !inFlow && c'.column < indent then some (acc, gap.broken, c')
            else plainScalar? inFlow indent fuel acc gap c'
        else some (acc, gap.broken, c')

/-! ### Quoted scalars -/

/-- The character that an escape stands for, and the number of characters after the backslash. -/
def escape? : List Char → Option (Char × Nat)
  | 'x' :: cs => (codePoint? 2 cs).map fun c => (c, 3)
  | 'u' :: cs => (codePoint? 4 cs).map fun c => (c, 5)
  | 'U' :: cs => (codePoint? 8 cs).map fun c => (c, 9)
  | c :: _ => ([('0', '\x00'), ('a', '\x07'), ('b', '\x08'), ('t', '\t'), ('\t', '\t'),
      ('n', '\n'), ('v', '\x0b'), ('f', '\x0c'), ('r', '\r'), ('e', '\x1b'), (' ', ' '),
      ('"', '"'), ('/', '/'), ('\\', '\\'), ('N', '\x85'), ('_', '\xa0'), ('L', '\u2028'),
      ('P', '\u2029')].lookup c).map fun c => (c, 1)
  | [] => none

/-- The part of a quoted scalar up to the next blank, to its end or to an escaped line end; gives
also whether there is an escaped line end. -/
def quotedWord? (quote : Char) : Nat → List Char → Cursor → Option (List Char × Bool × Cursor)
  | 0, acc, c => some (acc.reverse, false, c)
  | fuel + 1, acc, c =>
    if atBlank c.rest then some (acc.reverse, false, c)
    else match c.rest with
      | [] => some (acc.reverse, false, c)
      | x :: rest =>
        if quote == '\'' && x == '\'' && rest.head? == some '\'' then
          quotedWord? quote fuel ('\'' :: acc) (c.skip 2)
        else if x == quote then some (acc.reverse, false, c)
        else if quote == '"' && x == '\\' then
          if rest.head?.any isBreak then some (acc.reverse, true, (c.skip 1).skipLine.2)
          else match escape? rest with
            | none => none
            | some (y, n) => quotedWord? quote fuel (y :: acc) (c.skip (n + 1))
        else quotedWord? quote fuel (x :: acc) (c.skip 1)

/-- Reads a quoted scalar after its first quote. -/
def quotedScalar? (quote : Char) : Nat → List Char → Cursor → Option (List Char × Cursor)
  | 0, _, _ => none
  | fuel + 1, acc, c =>
    if c.atDocumentMark || c.rest.isEmpty then none
    else match quotedWord? quote (c.rest.length + 1) [] c with
      | none => none
      | some (word, escaped, c) =>
        if c.isAt quote && !escaped then some (acc ++ word, c.skip 1)
        else match Gap.read? 0 (c.rest.length + 1) (.none escaped) c with
          | none => none
          | some (gap, c) => quotedScalar? quote fuel (acc ++ word ++ gap.text) c

/-! ### Block scalars -/

/-- What becomes of the line ends at the end of a block. -/
inductive Chomping where
  | clip
  | strip
  | keep
deriving DecidableEq, Repr

def chomping? : Option Char → Option Chomping
  | some '+' => some .keep
  | some '-' => some .strip
  | _ => none

/-- An indentation of a block from 1 to 9. -/
def blockIndent? (c : Option Char) : Option Nat :=
  c.bind fun c => if c.isDigit && c != '0' then some (c.toNat - '0'.toNat) else none

/-- The head of a block after its mark: the indentation, if it is given, and the chomping, in any
order. -/
def blockHead (c : Cursor) : Option Nat × Chomping × Cursor :=
  match chomping? c.peek?, blockIndent? c.peek? with
  | some k, _ =>
    let c := c.skip 1
    match blockIndent? c.peek? with
    | some n => (some n, k, c.skip 1)
    | none => (none, k, c)
  | none, some n =>
    let c := c.skip 1
    match chomping? c.peek? with
    | some k => (some n, k, c.skip 1)
    | none => (some n, .clip, c)
  | none, none => (none, .clip, c)

/-- Reads empty lines and the indentation of the next line, which has at most `indent` columns if
that is known.  Gives the line ends, the widest indentation seen and the rest. -/
def blockBreaks? (indent : Option Nat) :
    Nat → List Char → Nat → Cursor → Option (List Char × Nat × Cursor)
  | 0, acc, widest, c => some (acc, widest, c)
  | fuel + 1, acc, widest, c =>
    let blanks := (c.rest.takeWhile (· == ' ')).length
    let c := c.skip (match indent with | some n => min blanks (n - c.column) | none => blanks)
    let widest := max widest c.column
    if indent.all (c.column < ·) && c.isAt '\t' then none
    else if c.peek?.any isBreak then
      let (lineEnd, c) := c.skipLine
      blockBreaks? indent fuel (acc ++ lineEnd.toList) widest c
    else some (acc, widest, c)

/-- The lines of a block: `lineEnd` ends the line before, `breaks` are the empty lines since, and
`blankLine` says whether the line before starts with a blank. -/
def blockLines? (literal : Bool) (indent : Nat) :
    Nat → List Char → Option Char → List Char → Bool → Cursor →
      Option (List Char × Option Char × List Char × Cursor)
  | 0, acc, lineEnd, breaks, _, c => some (acc, lineEnd, breaks, c)
  | fuel + 1, acc, lineEnd, breaks, blankLine, c =>
    if c.column == indent && !c.rest.isEmpty then
      let blank := c.peek?.any isGap
      let joined :=
        if !literal && lineEnd == some '\n' && !blankLine && !blank then
          if breaks.isEmpty then [' '] else []
        else lineEnd.toList
      let (content, c) := c.takeWhile (!isBreak ·)
      let (lineEnd, c) := c.skipLine
      match blockBreaks? (some indent) (c.rest.length + 1) [] 0 c with
      | none => none
      | some (more, _, c) =>
        blockLines? literal indent fuel (acc ++ joined ++ breaks ++ content) lineEnd more blank c
    else some (acc, lineEnd, breaks, c)

/-- Reads a block after its mark, inside a block that has `outer` columns, the first of them
being 1; at the top level there are none. -/
def blockScalar? (literal : Bool) (outer : Nat) (c : Cursor) : Option (List Char × Cursor) :=
  let (increment, chomping, c) := blockHead c
  let c := (c.skipWhile isGap).skipComment
  if !(c.rest.isEmpty || c.peek?.any isBreak) then none
  else
    let c := c.skipLine.2
    let given := increment.map fun n => outer - 1 + n
    match blockBreaks? given (c.rest.length + 1) [] 0 c with
    | none => none
    | some (breaks, widest, c) =>
      let indent := given.getD (max widest (max outer 1))
      match blockLines? literal indent (c.rest.length + 1) [] none breaks false c with
      | none => none
      | some (text, lineEnd, breaks, c) =>
        some (text ++ (if chomping = .strip then [] else lineEnd.toList) ++
          (if chomping = .keep then breaks else []), c)

end AlertRouter.Yaml
