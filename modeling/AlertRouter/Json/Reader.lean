import AlertRouter.Doc.Codec

/-! # Reading JSON text

The grammar of JSON, strictly: no comments, no trailing commas, no control characters in strings,
surrogate escapes only in pairs.  Integers that fit in 64 bits stay integers; all other numbers are
decimals and have to be within the range of binary floating point.  Arrays and objects may be nested
127 deep.

`fuel` bounds the recursion; every call consumes a character, so the length of the text is
enough. -/

namespace AlertRouter.Json

def isBlank (c : Char) : Bool := c == ' ' || c == '\t' || c == '\n' || c == '\r'

def skipBlanks (cs : List Char) : List Char := cs.dropWhile isBlank

/-! ### Numbers -/

/-- The digits in front and the rest. -/
def digits (cs : List Char) : List Char × List Char :=
  (cs.takeWhile Char.isDigit, cs.dropWhile Char.isDigit)

def digitsValue (ds : List Char) : Nat :=
  ds.foldl (fun n d => 10 * n + (d.toNat - '0'.toNat)) 0

/-- The digits before the point: a single zero, or digits that do not start with zero. -/
def integerPart? (cs : List Char) : Option (List Char × List Char) :=
  match digits cs with
  | ([], _) => none
  | (['0'], rest) => some (['0'], rest)
  | ('0' :: _, _) => none
  | (ds, rest) => some (ds, rest)

/-- The digits after a point; none without a point. -/
def fraction? : List Char → Option (List Char × List Char)
  | '.' :: cs => match digits cs with
    | ([], _) => none
    | (ds, rest) => some (ds, rest)
  | cs => some ([], cs)

/-- The exponent; absent without an `e`. -/
def exponent? : List Char → Option (Option Int × List Char)
  | [] => some (none, [])
  | e :: cs =>
    if e = 'e' ∨ e = 'E' then
      let (negative, cs) := match cs with
        | '-' :: cs => (true, cs)
        | '+' :: cs => (false, cs)
        | cs => (false, cs)
      match digits cs with
      | ([], _) => none
      | (ds, rest) =>
        let n : Int := digitsValue ds
        some (some (if negative then -n else n), rest)
    else some (none, e :: cs)

/-- An integer within 64 bits, or else a decimal. -/
def numberOf (negative : Bool) (whole fraction : List Char) (exponent : Option Int) :
    Option Number :=
  let n := digitsValue (whole ++ fraction)
  let isInteger := fraction.isEmpty && exponent.isNone &&
    (if negative then n ≤ Nat.pow 2 63 && n != 0 else n < UInt64.size)
  if isInteger then some (.integer (if negative then -n else n))
  else
    let e : Int := exponent.getD 0 - fraction.length
    if (Binary64.nearest? n e).isSome then some (.decimal negative n e) else none

def number? (cs : List Char) : Option (Number × List Char) :=
  let (negative, cs) := match cs with
    | '-' :: cs => (true, cs)
    | cs => (false, cs)
  match integerPart? cs with
  | none => none
  | some (whole, cs) => match fraction? cs with
    | none => none
    | some (fraction, cs) => match exponent? cs with
      | none => none
      | some (exponent, cs) => (numberOf negative whole fraction exponent).map (·, cs)

/-! ### Strings -/

/-- The code unit of four hexadecimal digits. -/
def unit? : List Char → Option (Nat × List Char)
  | a :: b :: c :: d :: rest => (Codec.unsigned? 16 [a, b, c, d]).map (·, rest)
  | _ => none

def isHighSurrogate (u : Nat) : Bool := 0xD800 ≤ u && u < 0xDC00
def isLowSurrogate (u : Nat) : Bool := 0xDC00 ≤ u && u < 0xE000

/-- The character of a `\u` escape, after the `u`; surrogates come in pairs. -/
def unicodeEscape? (cs : List Char) : Option (Char × List Char) :=
  match unit? cs with
  | none => none
  | some (u, rest) =>
    if isHighSurrogate u then
      match rest with
      | '\\' :: 'u' :: rest => match unit? rest with
        | some (v, rest) =>
          if isLowSurrogate v then
            some (Char.ofNat (0x10000 + (u - 0xD800) * 0x400 + (v - 0xDC00)), rest)
          else none
        | none => none
      | _ => none
    else if isLowSurrogate u then none
    else some (Char.ofNat u, rest)

/-- The character of a one-letter escape. -/
def escape? (c : Char) : Option Char :=
  match c with
  | '"' => some '"'
  | '\\' => some '\\'
  | '/' => some '/'
  | 'b' => some '\x08'
  | 'f' => some '\x0c'
  | 'n' => some '\n'
  | 'r' => some '\r'
  | 't' => some '\t'
  | _ => none

/-- The characters of a string up to its closing quote. -/
def stringBody? : Nat → List Char → Option (List Char × List Char)
  | 0, _ => none
  | fuel + 1, cs => match cs with
    | [] => none
    | '"' :: rest => some ([], rest)
    | '\\' :: 'u' :: rest => match unicodeEscape? rest with
      | some (c, rest) => (stringBody? fuel rest).map fun (s, rest) => (c :: s, rest)
      | none => none
    | '\\' :: e :: rest => match escape? e with
      | some c => (stringBody? fuel rest).map fun (s, rest) => (c :: s, rest)
      | none => none
    | c :: rest =>
      if c.toNat < 0x20 ∨ c = '\\' then none
      else (stringBody? fuel rest).map fun (s, rest) => (c :: s, rest)

/-! ### Values -/

/-- Expects a word and gives the rest. -/
def word? (w : String) (cs : List Char) : Option (List Char) :=
  if w.toList.isPrefixOf cs then some (cs.drop w.length) else none

mutual

/-- A value after optional blanks. -/
def value? : Nat → Nat → List Char → Option (Doc × List Char)
  | 0, _, _ => none
  | fuel + 1, depth, cs =>
    match skipBlanks cs with
    | [] => none
    | '"' :: rest => (stringBody? (fuel + 1) rest).map fun (s, rest) =>
        (.text (String.ofList s), rest)
    | '[' :: rest => match depth with
      | 0 => none
      | depth + 1 => match skipBlanks rest with
        | ']' :: rest => some (.list [], rest)
        | _ => (items? fuel depth rest).map fun (xs, rest) => (.list xs, rest)
    | '{' :: rest => match depth with
      | 0 => none
      | depth + 1 => match skipBlanks rest with
        | '}' :: rest => some (.record [], rest)
        | _ => (entries? fuel depth rest).map fun (es, rest) => (.record es, rest)
    | c :: rest =>
      if c = 'n' then (word? "null" (c :: rest)).map (.null, ·)
      else if c = 't' then (word? "true" (c :: rest)).map (.bool true, ·)
      else if c = 'f' then (word? "false" (c :: rest)).map (.bool false, ·)
      else (number? (c :: rest)).map fun (n, rest) => (.number n, rest)

/-- One or more values up to the closing bracket. -/
def items? : Nat → Nat → List Char → Option (List Doc × List Char)
  | 0, _, _ => none
  | fuel + 1, depth, cs => match value? fuel depth cs with
    | none => none
    | some (x, rest) => match skipBlanks rest with
      | ',' :: rest => (items? fuel depth rest).map fun (xs, rest) => (x :: xs, rest)
      | ']' :: rest => some ([x], rest)
      | _ => none

/-- One or more named values up to the closing brace. -/
def entries? : Nat → Nat → List Char → Option (List (String × Doc) × List Char)
  | 0, _, _ => none
  | fuel + 1, depth, cs => match skipBlanks cs with
    | '"' :: rest => match stringBody? (fuel + 1) rest with
      | none => none
      | some (name, rest) => match skipBlanks rest with
        | ':' :: rest => match value? fuel depth rest with
          | none => none
          | some (x, rest) => match skipBlanks rest with
            | ',' :: rest => (entries? fuel depth rest).map fun (es, rest) =>
                ((String.ofList name, x) :: es, rest)
            | '}' :: rest => some ([(String.ofList name, x)], rest)
            | _ => none
        | _ => none
    | _ => none

end

/-- How deep arrays and objects may be nested. -/
def maxDepth : Nat := 127

/-- The document of a JSON text; `none` if the text is not well-formed. -/
def read? (s : String) : Option Doc :=
  let cs := s.toList
  match value? (2 * cs.length + 2) maxDepth cs with
  | some (d, rest) => if (skipBlanks rest).isEmpty then some d else none
  | none => none

/-- Why a JSON text gives no value of a type. -/
inductive TextError where
  | malformed
  | undecodable (cause : DecodeError)
deriving DecidableEq, Repr

def TextError.message : TextError → String
  | malformed => "malformed JSON"
  | undecodable cause => cause.message

/-- Reads a value from JSON text. -/
def decode {α : Type} (c : Codec α) (s : String) : Except TextError α :=
  match read? s with
  | none => .error .malformed
  | some d => (c.read d).mapError fun e => .undecodable e.ofText

end AlertRouter.Json
