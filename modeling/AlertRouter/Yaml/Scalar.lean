import AlertRouter.Doc.Codec

/-! # Characters and scalars of YAML

The classes of characters that the format tells apart, and which unquoted scalars are not texts but
absent values, flags or numbers (`isTyped`). -/

namespace AlertRouter.Yaml

/-! ### Characters -/

/-- Does the character end a line? -/
def isBreak (c : Char) : Bool :=
  c == '\n' || c == '\r' || c == '\x85' || c == '\u2028' || c == '\u2029'

/-- Is the character a space or a tab? -/
def isGap (c : Char) : Bool := c == ' ' || c == '\t'

/-- Does a blank, a line end or the end of the text come next? -/
def atBlank : List Char → Bool
  | [] => true
  | c :: _ => isGap c || isBreak c || c == '\x00'

/-- May the character stand in a text at all? -/
def isAllowed (c : Char) : Bool :=
  let n := c.toNat
  c == '\t' || c == '\n' || c == '\r' || (0x20 ≤ n && n ≤ 0x7E) || n == 0x85 ||
    (0xA0 ≤ n && n ≤ 0xFFFD) || 0x10000 ≤ n

/-- May the character be written without an escape? -/
def isPrintable (c : Char) : Bool :=
  let n := c.toNat
  c == '\n' || (0x20 ≤ n && n ≤ 0x7E) || (0xA0 ≤ n && n ≤ 0xFFFD && n != 0xFEFF) || 0x10000 ≤ n

/-- May the character stand in the name of an anchor or of a directive? -/
def isWordChar (c : Char) : Bool := c.isAlphanum || c == '_' || c == '-'

/-! ### Unquoted scalars -/

/-- The text without one sign in front. -/
def withoutSign : List Char → List Char
  | '+' :: cs => cs
  | '-' :: cs => cs
  | cs => cs

def startsWithSign (cs : List Char) : Bool := cs.head? == some '+' || cs.head? == some '-'

/-- A number with superfluous zeros in front, which is a text. -/
def isPaddedNumber (cs : List Char) : Bool :=
  match withoutSign cs with
  | '0' :: c :: rest => (c :: rest).all Char.isDigit
  | _ => false

/-- Digits of some base that make up a number below `limit`. -/
def isNumberBelow (limit base : Nat) (cs : List Char) : Bool :=
  match Codec.unsigned? base cs with
  | some n => n < limit
  | none => false

/-- A number with the sign of a base in front, below `limit`. -/
def isBasedBelow (limit : Nat) : List Char → Bool
  | '0' :: 'x' :: cs => isNumberBelow limit 16 cs
  | '0' :: 'o' :: cs => isNumberBelow limit 8 cs
  | '0' :: 'b' :: cs => isNumberBelow limit 2 cs
  | _ => false

/-- A number in a base other than ten, of at most 128 bits with its sign. -/
def isBased : List Char → Bool
  | '-' :: cs => isBasedBelow (Nat.pow 2 127 + 1) cs
  | '+' :: cs => isBasedBelow (Nat.pow 2 128) cs
  | cs => isBasedBelow (Nat.pow 2 128) cs

/-- The exponent at the end of a decimal. -/
def exponent? : List Char → Option Int
  | [] => some 0
  | c :: cs =>
    if c = 'e' ∨ c = 'E' then
      match cs with
      | '-' :: ds => (Codec.unsigned? 10 ds).map fun n => -(n : Int)
      | '+' :: ds => (Codec.unsigned? 10 ds).map fun n => (n : Int)
      | ds => (Codec.unsigned? 10 ds).map fun n => (n : Int)
    else none

/-- A decimal number that is not too large: digits with at most one point among or beside them, and
perhaps an exponent. -/
def isDecimal (cs : List Char) : Bool :=
  let whole := cs.takeWhile Char.isDigit
  let rest := cs.dropWhile Char.isDigit
  let (fraction, rest) := match rest with
    | '.' :: rest => (rest.takeWhile Char.isDigit, rest.dropWhile Char.isDigit)
    | _ => ([], rest)
  match Codec.unsigned? 10 (whole ++ fraction), exponent? rest with
  | some n, some e => (Binary64.nearest? n (e - fraction.length)).isSome
  | _, _ => false

/-- The numbers that are not finite. -/
def isUnbounded (s : String) : Bool :=
  s ∈ [".inf", ".Inf", ".INF", "+.inf", "+.Inf", "+.INF", "-.inf", "-.Inf", "-.INF", ".nan", ".NaN",
    ".NAN"]

/-- Is an unquoted scalar something else than a text? -/
def isTyped (s : String) : Bool :=
  let cs := s.toList
  let unsigned := withoutSign cs
  Codec.plainIsNull s || (Codec.flagOfPlain? s).isSome || isBased cs || isUnbounded s ||
    (!isPaddedNumber cs && !startsWithSign unsigned && isDecimal unsigned)

end AlertRouter.Yaml
