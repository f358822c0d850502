import AlertRouter.Doc.Codec
import AlertRouter.Text.Utf8

/-! # Percent-encoding

A byte is written as `%` and two hexadecimal digits.  Which characters are written so depends on the
part of a URL; characters outside of ASCII and control characters always are. -/

namespace AlertRouter.Percent

/-- The escape of a byte, in upper case. -/
def escape (b : UInt8) : List Char :=
  ['%', (Nat.digitChar (b.toNat / 16)).toUpper, (Nat.digitChar (b.toNat % 16)).toUpper]

/-- Control characters and all that is not ASCII. -/
def isControl (c : Char) : Bool := c.toNat < 0x20 || 0x7E < c.toNat

def inFragment (c : Char) : Bool :=
  isControl c || c == ' ' || c == '"' || c == '<' || c == '>' || c == '`'

def inPath (c : Char) : Bool :=
  inFragment c || c == '#' || c == '?' || c == '{' || c == '}'

def inUserInfo (c : Char) : Bool :=
  inPath c || c == '/' || c == ':' || c == ';' || c == '=' || c == '@' || c == '[' || c == '\\' ||
    c == ']' || c == '^' || c == '|'

def inQuery (c : Char) : Bool :=
  isControl c || c == ' ' || c == '"' || c == '#' || c == '<' || c == '>'

def inSpecialQuery (c : Char) : Bool := inQuery c || c == '\''

/-- Escapes the characters of a set. -/
def encode (inSet : Char → Bool) (cs : List Char) : List Char :=
  cs.flatMap fun c => if inSet c then (String.utf8EncodeChar c).flatMap escape else [c]

/-- The bytes of a text whose escapes are resolved; a `%` without two digits stays. -/
def decode : List Char → List UInt8
  | '%' :: a :: b :: rest => match Codec.unsigned? 16 [a, b] with
    | some n => n.toUInt8 :: decode rest
    | none => String.utf8EncodeChar '%' ++ decode (a :: b :: rest)
  | c :: rest => String.utf8EncodeChar c ++ decode rest
  | [] => []

end AlertRouter.Percent
