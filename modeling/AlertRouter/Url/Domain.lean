import AlertRouter.Unicode.Case
import AlertRouter.Unicode.Category
import AlertRouter.Url.Host
import AlertRouter.Url.Punycode

/-! # Domain names

Domain names are written in ASCII and in lower case.  Labels with other characters are mapped to
their common form (case folded, full-width letters narrowed, joiners and soft hyphens dropped) and
written in Punycode after `xn--`. -/

namespace AlertRouter.Url.Domain

/-- Characters that leave no trace in a domain name. -/
def isIgnored (c : Char) : Bool :=
  let n := c.toNat
  n == 0xAD || n == 0x34F || n == 0x200B || n == 0x2060 || n == 0x2064 || n == 0xFEFF ||
    (0x180B ≤ n && n ≤ 0x180D) || (0xFE00 ≤ n && n ≤ 0xFE0F) || (0xE0100 ≤ n && n ≤ 0xE01EF)

/-- The common form of a character: ideographic full stops become dots, full-width ASCII becomes
ASCII, and case is folded. -/
def mapChar (c : Char) : Char :=
  let n := c.toNat
  if n = 0x3002 ∨ n = 0xFF0E ∨ n = 0xFF61 then '.'
  else if 0xFF01 ≤ n ∧ n ≤ 0xFF5E then (Char.ofNat (n - 0xFEE0)).toLower
  else if n < 0x80 then c.toLower
  else Unicode.Case.fold c

/-- May the character stand in a label? -/
def isAllowed (c : Char) : Bool :=
  c.toNat < 0x80 ||
    !((Unicode.Category.ofChar c).major == "C" || (Unicode.Category.ofChar c).major == "Z")

def isMark (c : Char) : Bool := (Unicode.Category.ofChar c).major == "M"

/-- May the decoded label stand in a domain name? -/
def isValidLabel (label : List Char) : Bool :=
  label.all isAllowed && !(label.head?.map isMark).getD false

/-- The ASCII form of a label in common form. -/
def labelToAscii? (label : List Char) : Option (List Char) :=
  if label.all (·.toNat < 0x80) then
    match label with
    | 'x' :: 'n' :: '-' :: '-' :: rest => match Punycode.decode? rest with
      | some decoded =>
        if isValidLabel decoded && decoded.any (0x80 ≤ ·.toNat) &&
            decoded.map mapChar == decoded && Punycode.encode decoded == rest then some label
        else none
      | none => none
    | _ => some label
  else if isValidLabel label then some ("xn--".toList ++ Punycode.encode label)
  else none

/-- The ASCII form of a domain name. -/
def toAscii? (domain : List Char) : Option (List Char) :=
  let mapped := (domain.filter (! isIgnored ·)).map mapChar
  ((Host.splitOn '.' mapped).mapM labelToAscii?).bind fun labels =>
    let ascii := (labels.intersperse ['.']).flatten
    if ascii.any Host.isForbidden then none else some ascii

end AlertRouter.Url.Domain
