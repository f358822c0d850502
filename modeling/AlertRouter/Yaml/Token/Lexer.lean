import AlertRouter.Yaml.Token.Scalar
import AlertRouter.Yaml.Token.Tag

/-! # Reading tokens

The tokens of a YAML text.  Blocks are found by their indentation: a block starts where an item or a
name stands further in than the block around it, and ends with the first line that does not.

A name is only known to be one at the colon after it.  So the place of the last thing that may be a
name is remembered (`Candidate`), one for each open bracket, and the token for it is put in there
afterwards.  A name has to be followed by its colon on the same line within 1024 characters. -/

namespace AlertRouter.Yaml

/-- The place of something that may be the name of an entry: the number of tokens before it, and
where it stands.  It is `required` to be one if nothing else can stand there. -/
structure Candidate where
  position : Nat
  index : Nat
  line : Nat
  column : Nat
  required : Bool

/-- The reader: what is left, the tokens so far (the last one first), the columns of the open blocks
counted from 1 (the innermost one first), the candidates of the text outside of brackets and of each
open bracket (the innermost one first), and whether a name may stand here. -/
structure Lexer where
  cursor : Cursor
  tokens : List Token
  blocks : List Nat
  outer : Option Candidate
  brackets : List (Option Candidate)
  nameAllowed : Bool

namespace Lexer

def ofText (cs : List Char) : Lexer := ⟨.ofText cs, [], [], none, [], true⟩

/-- Are there open brackets? -/
def inFlow (l : Lexer) : Bool := !l.brackets.isEmpty

/-- The column of the innermost block, counted from 1; 0 outside of all blocks. -/
def block (l : Lexer) : Nat := l.blocks.headD 0

def candidate (l : Lexer) : Option Candidate :=
  match l.brackets with
  | c :: _ => c
  | [] => l.outer

def setCandidate (l : Lexer) (c : Option Candidate) : Lexer :=
  match l.brackets with
  | _ :: rest => { l with brackets := c :: rest }
  | [] => { l with outer := c }

def push (l : Lexer) (t : Token) : Lexer := { l with tokens := t :: l.tokens }

/-- Passes over `n` characters and adds a token for them. -/
def take (l : Lexer) (n : Nat) (t : Token) : Lexer := { l.push t with cursor := l.cursor.skip n }

def allowName (l : Lexer) (allowed : Bool) : Lexer := { l with nameAllowed := allowed }

/-! ### Candidates -/

/-- Has a candidate been passed for good? -/
def isStale (c : Cursor) (k : Candidate) : Bool := k.line < c.line || k.index + 1024 < c.index

/-- The candidates that are left when the reader has come to `c`; one that is required must not be
lost. -/
def refresh? (c : Cursor) : Option Candidate → Option (Option Candidate)
  | none => some none
  | some k => if isStale c k then if k.required then none else some none else some (some k)

def refreshCandidates? (l : Lexer) : Option Lexer :=
  match refresh? l.cursor l.outer, l.brackets.mapM (refresh? l.cursor) with
  | some outer, some brackets => some { l with outer, brackets }
  | _, _ => none

/-- Gives up the current candidate. -/
def dropCandidate? (l : Lexer) : Option Lexer :=
  if l.candidate.any (·.required) then none else some (l.setCandidate none)

/-- What comes next may be the name of an entry. -/
def markCandidate? (l : Lexer) : Option Lexer :=
  if l.nameAllowed then
    let c := l.cursor
    l.dropCandidate?.map fun l => l.setCandidate
      (some ⟨l.tokens.length, c.index, c.line, c.column, !l.inFlow && l.block == c.column + 1⟩)
  else some l

/-! ### Blocks -/

/-- Puts tokens before those from the given position on. -/
def insert (l : Lexer) (position : Nat) (ts : List Token) : Lexer :=
  let later := l.tokens.length - position
  { l with tokens := l.tokens.take later ++ ts.reverse ++ l.tokens.drop later }

/-- Opens a block at a column, unless there is one; its token comes at the given position. -/
def openBlock (l : Lexer) (column position : Nat) (t : Token) : Lexer :=
  if !l.inFlow && l.block < column + 1 then
    { l.insert position [t] with blocks := (column + 1) :: l.blocks }
  else l

/-- Closes the blocks beyond the first `column` columns. -/
def closeBlocks (l : Lexer) (column : Nat) : Lexer :=
  if l.inFlow then l
  else
    let closed := (l.blocks.takeWhile (column < ·)).length
    { l with
      tokens := List.replicate closed .blockEnd ++ l.tokens
      blocks := l.blocks.drop closed }

/-! ### Single tokens -/

/-- Passes over blanks, comments and line ends. -/
def skipBlanks : Nat → Lexer → Lexer
  | 0, l => l
  | fuel + 1, l =>
    let c := l.cursor
    let c := if c.index = 0 ∧ c.isAt '\uFEFF' then c.skip 1 else c
    let c := c.skipWhile fun x => x == ' ' || ((l.inFlow || !l.nameAllowed) && x == '\t')
    let c := c.skipComment
    if c.peek?.any isBreak then
      skipBlanks fuel { l with cursor := c.skipLine.2, nameAllowed := l.nameAllowed || !l.inFlow }
    else { l with cursor := c }

/-- A mark that belongs to no block. -/
def topLevel? (l : Lexer) : Option Lexer := (l.closeBlocks 0).dropCandidate?.map (·.allowName false)

def openBracket? (l : Lexer) (t : Token) : Option Lexer :=
  l.markCandidate?.map fun l =>
    { l.take 1 t with brackets := none :: l.brackets, nameAllowed := true }

def closeBracket? (l : Lexer) (t : Token) : Option Lexer :=
  l.dropCandidate?.map fun l =>
    { l.take 1 t with brackets := l.brackets.drop 1, nameAllowed := false }

def comma? (l : Lexer) : Option Lexer :=
  l.dropCandidate?.map fun l => (l.take 1 .comma).allowName true

def item? (l : Lexer) : Option Lexer :=
  if !l.inFlow && !l.nameAllowed then none
  else (l.openBlock l.cursor.column l.tokens.length .blockList).dropCandidate?.map fun l =>
    (l.take 1 .item).allowName true

def key? (l : Lexer) : Option Lexer :=
  if !l.inFlow && !l.nameAllowed then none
  else (l.openBlock l.cursor.column l.tokens.length .blockMap).dropCandidate?.map fun l =>
    (l.take 1 .key).allowName !l.inFlow

def value? (l : Lexer) : Option Lexer :=
  match l.candidate with
  | some k =>
    let l := (l.insert k.position [.key]).openBlock k.column k.position .blockMap
    some (((l.setCandidate none).allowName false).take 1 .value)
  | none =>
    if !l.inFlow && !l.nameAllowed then none
    else some (((l.openBlock l.cursor.column l.tokens.length .blockMap).allowName !l.inFlow).take 1
      .value)

/-- A token that may be a name, read by `read`. -/
def nameLike? (l : Lexer) (read : Cursor → Option (Token × Cursor)) : Option Lexer :=
  l.markCandidate?.bind fun l => (read l.cursor).map fun (t, c) =>
    { l.push t with cursor := c, nameAllowed := false }

def quoted? (quote : Char) (c : Cursor) : Option (Token × Cursor) :=
  (quotedScalar? quote (c.rest.length + 1) [] (c.skip 1)).map fun (text, c) =>
    (.scalar false (String.ofList text), c)

def plain? (l : Lexer) : Option Lexer :=
  l.markCandidate?.bind fun l =>
    (plainScalar? l.inFlow l.block (l.cursor.rest.length + 1) [] (.none false) l.cursor).map
      fun (text, broken, c) =>
        { l.push (.scalar true (String.ofList text)) with cursor := c, nameAllowed := broken }

def blockScalarToken? (l : Lexer) (literal : Bool) : Option Lexer :=
  l.dropCandidate?.bind fun l =>
    (blockScalar? literal l.block (l.cursor.skip 1)).map fun (text, c) =>
      { l.push (.scalar false (String.ofList text)) with cursor := c, nameAllowed := true }

/-- Characters with which no unquoted scalar starts, those aside that depend on the next one. -/
def startsNoScalar (c : Char) : Bool :=
  ",[]\x7b\x7d#&*!|>'\"%@\x60".toList.contains c

/-- May an unquoted scalar start here? -/
def atPlain (l : Lexer) : Bool :=
  match l.cursor.rest with
  | '-' :: rest => !rest.head?.any isGap
  | '?' :: rest => !l.inFlow && !atBlank rest
  | ':' :: rest => !l.inFlow && !atBlank rest
  | cs => !atBlank cs && !cs.head?.any startsNoScalar

/-- Reads the next token; there is one. -/
def token? (l : Lexer) : Option Lexer :=
  let c := l.cursor
  match c.peek? with
  | none => none
  | some x =>
    if c.column = 0 ∧ x = '%' then
      l.topLevel?.bind fun l => (directive? c).map fun (t, c) => { l.push t with cursor := c }
    else if c.atDocumentMark then
      l.topLevel?.map fun l => l.take 3 (if x = '-' then .documentStart else .documentEnd)
    else if x = '[' then l.openBracket? .flowList
    else if x = '\x7b' then l.openBracket? .flowMap
    else if x = ']' then l.closeBracket? .flowListEnd
    else if x = '\x7d' then l.closeBracket? .flowMapEnd
    else if x = ',' then l.comma?
    else if x = '-' ∧ c.blankAt 1 then l.item?
    else if x = '?' ∧ (l.inFlow ∨ c.blankAt 1) then l.key?
    else if x = ':' ∧ (l.inFlow ∨ c.blankAt 1) then l.value?
    else if x = '*' then l.nameLike? fun c => (anchorName? c).map fun (n, c) => (.alias n, c)
    else if x = '&' then l.nameLike? fun c => (anchorName? c).map fun (n, c) => (.anchor n, c)
    else if x = '!' then l.nameLike? (tag? l.inFlow)
    else if x = '|' ∧ !l.inFlow then l.blockScalarToken? true
    else if x = '>' ∧ !l.inFlow then l.blockScalarToken? false
    else if x = '\'' ∨ x = '"' then l.nameLike? (quoted? x)
    else if l.atPlain then l.plain?
    else none

/-- Reads tokens up to the end of the text. -/
def run? : Nat → Lexer → Option (List Token)
  | 0, _ => none
  | fuel + 1, l =>
    (skipBlanks (l.cursor.rest.length + 1) l).refreshCandidates?.bind fun l =>
      if l.cursor.rest.isEmpty then
        (l.closeBlocks 0).dropCandidate?.map fun l => l.tokens.reverse
      else ((l.closeBlocks (l.cursor.column + 1)).token?).bind (run? fuel)

end Lexer

/-- The tokens of a text; `none` if it is no YAML. -/
def tokens? (s : String) : Option (List Token) :=
  let cs := s.toList
  if cs.all isAllowed then (Lexer.ofText cs).run? (2 * cs.length + 2) else none

end AlertRouter.Yaml
