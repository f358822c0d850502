import AlertRouter.Yaml.Scalar

/-! # Places in a YAML text

A cursor is what is left of a text, with the place it stands at.  The readers here take the parts of
the text that are the same everywhere: line ends, blanks between the parts of a scalar, words, and
escapes by code point. -/

namespace AlertRouter.Yaml

/-- What is left of a text; `index` counts all characters, `column` those of the line. -/
structure Cursor where
  rest : List Char
  index : Nat
  line : Nat
  column : Nat
deriving Inhabited

namespace Cursor

def ofText (cs : List Char) : Cursor := ⟨cs, 0, 0, 0⟩

def peek? (c : Cursor) : Option Char := c.rest.head?

/-- Is the next character `x`? -/
def isAt (c : Cursor) (x : Char) : Bool := c.rest.head? == some x

/-- The `n`-th character from here is a blank, a line end or beyond the text. -/
def blankAt (c : Cursor) (n : Nat) : Bool := atBlank (c.rest.drop n)

/-- Passes over `n` characters of the line. -/
def skip (c : Cursor) (n : Nat) : Cursor :=
  ⟨c.rest.drop n, c.index + n, c.line, c.column + n⟩

/-- Passes over a line end; gives the character that stands for it. -/
def skipLine (c : Cursor) : Option Char × Cursor :=
  match c.rest with
  | '\r' :: '\n' :: rest => (some '\n', ⟨rest, c.index + 2, c.line + 1, 0⟩)
  | x :: rest =>
    if isBreak x then
      (some (if x == '\u2028' || x == '\u2029' then x else '\n'),
        ⟨rest, c.index + 1, c.line + 1, 0⟩)
    else (none, c)
  | [] => (none, c)

/-- Passes over the characters of the line that satisfy `p`; gives them. -/
def takeWhile (c : Cursor) (p : Char → Bool) : List Char × Cursor :=
  let taken := c.rest.takeWhile p
  (taken, c.skip taken.length)

def skipWhile (c : Cursor) (p : Char → Bool) : Cursor := (c.takeWhile p).2

/-- Passes over a comment up to the end of the line. -/
def skipComment (c : Cursor) : Cursor :=
  if c.isAt '#' then c.skipWhile (!isBreak ·) else c

/-- Is this the start of a line with the mark of the start or the end of a document? -/
def atDocumentMark (c : Cursor) : Bool :=
  c.column == 0 && (c.rest.take 3 == ['-', '-', '-'] || c.rest.take 3 == ['.', '.', '.']) &&
    c.blankAt 3

end Cursor

/-! ### Blanks within scalars -/

/-- Blanks between two parts of a scalar: spaces of one line, or, if the line is broken, the first
line end and those after it. -/
structure Gap where
  broken : Bool
  spaces : List Char
  first : Option Char
  more : List Char

namespace Gap

/-- No blanks, on the same line or after a line end that has been escaped. -/
def none (broken : Bool) : Gap := ⟨broken, [], .none, []⟩

/-- What the blanks stand for: one line end becomes a space, further ones stay. -/
def text (g : Gap) : List Char :=
  if !g.broken then g.spaces
  else match g.first with
    | some '\n' => if g.more.isEmpty then [' '] else g.more
    | some c => c :: g.more
    | .none => g.more

/-- Reads blanks.  Within the indentation, the columns before `indent`, there must be no tab. -/
def read? (indent : Nat) : Nat → Gap → Cursor → Option (Gap × Cursor)
  | 0, g, c => some (g, c)
  | fuel + 1, g, c => match c.peek? with
    | .none => some (g, c)
    | some x =>
      if isGap x then
        if g.broken && c.column < indent && x == '\t' then .none
        else if g.broken then read? indent fuel g (c.skip 1)
        else read? indent fuel { g with spaces := g.spaces ++ [x] } (c.skip 1)
      else if isBreak x then
        let (lineEnd, c) := c.skipLine
        if g.broken then read? indent fuel { g with more := g.more ++ lineEnd.toList } c
        else read? indent fuel ⟨true, [], lineEnd, []⟩ c
      else some (g, c)

end Gap

/-- The character with a code point that is written with exactly `width` hexadecimal digits. -/
def codePoint? (width : Nat) (cs : List Char) : Option Char :=
  let ds := cs.take width
  if ds.length < width then none
  else (Codec.unsigned? 16 ds).bind fun n => if n.isValidChar then some (Char.ofNat n) else none

end AlertRouter.Yaml
