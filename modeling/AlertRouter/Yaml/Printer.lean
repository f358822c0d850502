import AlertRouter.Yaml.Scalar

/-! # Writing YAML

Documents are written in block form: an entry or an item a line, entries of a nested map two columns
further in, items of a list under the column of its name.  Lines are never folded.

A text is written without quotes if it then reads as the same text, with several lines as a literal
block, and else between single quotes or, if it has characters that need an escape, between double
quotes. -/

namespace AlertRouter.Yaml

/-- How a text is written. -/
inductive Style where
  | plain
  | single
  | double
  | literal
deriving DecidableEq, Repr

/-! ### Which style a text allows -/

/-- Is there a character that satisfies `p` followed by one that satisfies `q`? -/
def hasPair (p q : Char → Bool) : List Char → Bool
  | c :: d :: rest => (p c && q d) || hasPair p q (d :: rest)
  | _ => false

/-- Is there a character that satisfies `p` at one of the ends? -/
def atEnds (p : Char → Bool) (cs : List Char) : Bool := cs.head?.any p || cs.getLast?.any p

/-- Characters with which no unquoted scalar starts. -/
def indicators : List Char :=
  ['#', ',', '[', ']', '\x7b', '\x7d', '&', '*', '!', '|', '>', '\'', '"', '%', '@', '\x60']

/-- Would an unquoted scalar end at a character of the text, given whether a blank precedes? -/
def hasInnerEnd (blankBefore : Bool) : List Char → Bool
  | [] => false
  | c :: rest =>
    (c == ':' && atBlank rest) || (c == '#' && blankBefore) || hasInnerEnd (atBlank [c]) rest

/-- Would the start of the text be taken for an indicator? -/
def startsIndicator : List Char → Bool
  | [] => false
  | c :: rest =>
    indicators.contains c || ((c == '?' || c == ':' || c == '-') && atBlank rest) ||
      (c == '-' && rest.take 2 == ['-', '-']) || (c == '.' && rest.take 2 == ['.', '.'])

def isSpace (c : Char) : Bool := c == ' '

def needsEscape (cs : List Char) : Bool := cs.any (!isPrintable ·)

def allowsSingle (cs : List Char) : Bool :=
  !(needsEscape cs || hasPair isSpace isBreak cs || hasPair isBreak isSpace cs)

def allowsPlain (cs : List Char) : Bool :=
  allowsSingle cs && !(atEnds isSpace cs || cs.any isBreak || startsIndicator cs ||
    hasInnerEnd false cs)

def allowsLiteral (cs : List Char) : Bool :=
  !(needsEscape cs || cs.getLast?.any isSpace || hasPair isSpace isBreak cs)

/-- The style of a text. -/
def styleOf (s : String) : Style :=
  let cs := s.toList
  if '\n' ∈ cs then if allowsLiteral cs then .literal else .double
  else if !(isTyped s || isPaddedNumber cs) && allowsPlain cs then .plain
  else if allowsSingle cs then .single
  else .double

/-! ### Writing in a style -/

def spaces (n : Nat) : List Char := List.replicate n ' '

/-- The text between single quotes; a line that follows a line end is indented. -/
def writeSingle (indent : Nat) (cs : List Char) : List Char :=
  '\'' :: body false cs
where
  body (afterBreak : Bool) : List Char → List Char
    | [] => (if afterBreak then spaces indent else []) ++ ['\'']
    | c :: rest =>
      if isBreak c then c :: body true rest
      else
        (if afterBreak then spaces indent else []) ++ (if c = '\'' then ['\'', '\''] else [c]) ++
          body false rest

/-- The digits of a code point, at least `width` of them. -/
def hexDigits (width n : Nat) : List Char :=
  let ds := (Nat.toDigits 16 n).map Char.toUpper
  List.replicate (width - ds.length) '0' ++ ds

/-- A character between double quotes. -/
def escapeChar (c : Char) : List Char :=
  if c = '"' then ['\\', '"']
  else if c = '\\' then ['\\', '\\']
  else if isPrintable c && !isBreak c then [c]
  else '\\' :: match c.toNat with
    | 0x00 => ['0']
    | 0x07 => ['a']
    | 0x08 => ['b']
    | 0x09 => ['t']
    | 0x0A => ['n']
    | 0x0B => ['v']
    | 0x0C => ['f']
    | 0x0D => ['r']
    | 0x1B => ['e']
    | 0x85 => ['N']
    | 0x2028 => ['L']
    | 0x2029 => ['P']
    | n =>
      if n ≤ 0xFF then 'x' :: hexDigits 2 n
      else if n ≤ 0xFFFF then 'u' :: hexDigits 4 n
      else 'U' :: hexDigits 8 n

def writeDouble (cs : List Char) : List Char := '"' :: cs.flatMap escapeChar ++ ['"']

/-- The lines of a literal block; lines without characters are not indented. -/
def literalLines (indent : Nat) (lineStart : Bool) : List Char → List Char
  | [] => []
  | c :: rest =>
    if isBreak c then c :: literalLines indent true rest
    else (if lineStart then spaces indent else []) ++ c :: literalLines indent false rest

/-- What the head of a literal block says: the indentation if the text starts with a blank, and what
becomes of the line ends at the end of the text. -/
def literalHead (cs : List Char) : List Char :=
  let start := if cs.head?.any fun c => isSpace c || isBreak c then ['2'] else []
  let stop := match cs.reverse with
    | [] => ['-']
    | [c] => if isBreak c then ['+'] else ['-']
    | c :: d :: _ => if !isBreak c then ['-'] else if isBreak d then ['+'] else []
  '|' :: start ++ stop

def writeLiteral (indent : Nat) (cs : List Char) : List Char :=
  literalHead cs ++ '\n' :: literalLines indent true cs

/-- A text, its further lines being indented by `indent`. -/
def writeText (indent : Nat) (s : String) : List Char :=
  match styleOf s with
  | .plain => s.toList
  | .single => writeSingle indent s.toList
  | .double => writeDouble s.toList
  | .literal => writeLiteral indent s.toList

/-- Ends the line, unless it has ended already. -/
def endLine (cs : List Char) : List Char :=
  if cs.getLast?.any isBreak then cs else cs ++ ['\n']

/-- May the text stand before the colon of its entry? -/
def isShortName (s : String) : Bool := !s.toList.any isBreak && s.utf8ByteSize ≤ 128

/-- The name of an entry, up to its colon. -/
def writeName (indent : Nat) (name : String) : List Char :=
  let text := writeText (indent + 2) name
  if isShortName name then text ++ [':']
  else '?' :: ' ' :: endLine text ++ spaces indent ++ [':']

mutual

/-- What follows the colon of an entry, to the end of the line or of the nested lines; `indent` is
the column of the entry. -/
def writeValue (indent : Nat) : Doc → List Char
  | .record (e :: es) =>
    '\n' :: spaces (indent + 2) ++ writeEntry (indent + 2) e ++ writeEntries (indent + 2) es
  | .list (d :: ds) =>
    '\n' :: spaces indent ++ writeItem indent d ++ writeItems indent ds
  | .record [] => " \x7b\x7d\n".toList
  | .list [] => " []\n".toList
  | .null => " null\n".toList
  | .bool b => ' ' :: (toString b).toList ++ ['\n']
  | .number n => ' ' :: n.text.toList ++ ['\n']
  | .text s => ' ' :: endLine (writeText (indent + 2) s)
  | .plain s => ' ' :: endLine (writeText (indent + 2) s)
  | .complex => " null\n".toList

/-- An item of a list, from its dash on. -/
def writeItem (indent : Nat) : Doc → List Char
  | .record (e :: es) =>
    '-' :: ' ' :: writeEntry (indent + 2) e ++ writeEntries (indent + 2) es
  | .list (d :: ds) =>
    '-' :: ' ' :: writeItem (indent + 2) d ++ writeItems (indent + 2) ds
  | .record [] => "- \x7b\x7d\n".toList
  | .list [] => "- []\n".toList
  | .null => "- null\n".toList
  | .bool b => '-' :: ' ' :: (toString b).toList ++ ['\n']
  | .number n => '-' :: ' ' :: n.text.toList ++ ['\n']
  | .text s => '-' :: ' ' :: endLine (writeText (indent + 2) s)
  | .plain s => '-' :: ' ' :: endLine (writeText (indent + 2) s)
  | .complex => "- null\n".toList

/-- Items on lines of their own. -/
def writeItems (indent : Nat) : List Doc → List Char
  | [] => []
  | d :: ds => spaces indent ++ writeItem indent d ++ writeItems indent ds

/-- An entry, from its name on. -/
def writeEntry (indent : Nat) : String × Doc → List Char
  | (name, d) => writeName indent name ++ writeValue indent d

/-- Entries on lines of their own. -/
def writeEntries (indent : Nat) : List (String × Doc) → List Char
  | [] => []
  | e :: es => spaces indent ++ writeEntry indent e ++ writeEntries indent es

end

/-- The text of a record. -/
def render : Doc → String
  | .record es => String.ofList (writeEntries 0 es)
  | d => String.ofList ((writeValue 0 d).drop 1)

end AlertRouter.Yaml
