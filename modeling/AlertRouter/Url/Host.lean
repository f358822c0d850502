import AlertRouter.Url.Basic
import AlertRouter.Url.Percent

/-! # Hosts

The host of a URL with a special scheme is an IPv6 address in brackets, an IPv4 address in one of
its many notations, or a domain name.  Other schemes have opaque hosts. -/

namespace AlertRouter.Url.Host

/-! ### IPv4 -/

/-- A number in decimal, octal (`0…`) or hexadecimal (`0x…`) notation. -/
def ipv4Number? (part : List Char) : Option Nat :=
  match part with
  | [] => none
  | '0' :: 'x' :: [] => some 0
  | '0' :: 'X' :: [] => some 0
  | '0' :: 'x' :: rest => Codec.unsigned? 16 rest
  | '0' :: 'X' :: rest => Codec.unsigned? 16 rest
  | '0' :: d :: rest => Codec.unsigned? 8 (d :: rest)
  | _ => Codec.unsigned? 10 part

/-- Splits at every `sep`. -/
def splitOn (sep : Char) : List Char → List (List Char)
  | [] => [[]]
  | c :: cs => match splitOn sep cs with
    | [] => [[c]]
    | p :: ps => if c = sep then [] :: p :: ps else (c :: p) :: ps

/-- The parts of a domain name without the empty part after a final dot. -/
def labels (domain : List Char) : List (List Char) :=
  let parts := splitOn '.' domain
  if parts.getLast? = some [] then parts.dropLast else parts

/-- Is a domain name to be read as an IPv4 address? -/
def endsInNumber (domain : List Char) : Bool :=
  match (labels domain).getLast? with
  | none => false
  | some last => (!last.isEmpty && last.all Char.isDigit) || (ipv4Number? last).isSome

/-- The address of the numbers between the dots: the last one fills all bytes that are left. -/
def ipv4Address? (numbers : List Nat) : Option Nat :=
  match numbers.getLast? with
  | none => none
  | some last =>
    let front := numbers.dropLast
    if 3 < front.length ∨ Nat.pow 256 (4 - front.length) ≤ last ∨ front.any (255 < ·) then none
    else some (front.zipIdx.foldl (fun sum (n, i) => sum + n * Nat.pow 256 (3 - i)) last)

def ipv4Text (address : Nat) : String :=
  String.intercalate "." ([3, 2, 1, 0].map fun i => toString (address / Nat.pow 256 i % 256))

def ipv4? (domain : List Char) : Option String :=
  ((labels domain).mapM ipv4Number?).bind fun ns => (ipv4Address? ns).map ipv4Text

/-! ### IPv6 -/

/-- A piece of one to four hexadecimal digits. -/
def piece? (part : List Char) : Option Nat :=
  if part.length ≤ 4 then Codec.unsigned? 16 part else none

/-- A decimal byte without superfluous zeros. -/
def byte? (part : List Char) : Option Nat :=
  match part with
  | '0' :: _ :: _ => none
  | _ => (Codec.unsigned? 10 part).bind fun n => if n ≤ 255 then some n else none

/-- The two pieces of an IPv4 address at the end of an IPv6 address. -/
def dotted? (part : List Char) : Option (List Nat) :=
  match (splitOn '.' part).mapM byte? with
  | some [a, b, c, d] => some [256 * a + b, 256 * c + d]
  | _ => none

/-- The pieces between colons; the last one may be dotted. -/
def pieces? : List (List Char) → Option (List Nat)
  | [] => some []
  | [part] => if part.contains '.' then dotted? part else (piece? part).map ([·])
  | part :: rest => match piece? part, pieces? rest with
    | some n, some ns => some (n :: ns)
    | _, _ => none

/-- The pieces of one side of a double colon. -/
def side? (side : List Char) : Option (List Nat) :=
  if side.isEmpty then some [] else pieces? (splitOn ':' side)

/-- The text before and after the first double colon. -/
def splitDouble : List Char → Option (List Char × List Char)
  | ':' :: ':' :: rest => some ([], rest)
  | c :: rest => (splitDouble rest).map fun (a, b) => (c :: a, b)
  | [] => none

/-- The eight pieces of an IPv6 address. -/
def ipv6Pieces? (cs : List Char) : Option (List Nat) :=
  match splitDouble cs with
  | none => match pieces? (splitOn ':' cs) with
    | some ns => if ns.length = 8 then some ns else none
    | none => none
  | some (front, back) =>
    if front.contains '.' then none
    else match side? front, side? back with
      | some a, some b =>
        if a.length + b.length < 8 then
          some (a ++ List.replicate (8 - a.length - b.length) 0 ++ b)
        else none
      | _, _ => none

/-- The length of the run of zeros in front. -/
def zeroRun (ns : List Nat) : Nat := (ns.takeWhile (· == 0)).length

/-- Where the first of the longest runs of zeros starts, and its length. -/
def longestZeros (ns : List Nat) : Nat × Nat :=
  (List.range ns.length).foldl
    (fun best i => let n := zeroRun (ns.drop i); if best.2 < n then (i, n) else best) (0, 0)

def hexText (n : Nat) : String := String.ofList (Nat.toDigits 16 n)

def ipv6Text (ns : List Nat) : String :=
  let (start, count) := longestZeros ns
  let join := fun (ns : List Nat) => String.intercalate ":" (ns.map hexText)
  if 2 ≤ count then join (ns.take start) ++ "::" ++ join (ns.drop (start + count))
  else join ns

/-- An IPv6 address in brackets, from the text after the opening one. -/
def ipv6 (cs : List Char) : Except Fault String :=
  match cs.getLast?, ipv6Pieces? cs.dropLast with
  | some ']', some ns => .ok ("[" ++ ipv6Text ns ++ "]")
  | _, _ => .error .invalidIpv6

/-! ### Names -/

/-- Characters that no domain name contains. -/
def isForbidden (c : Char) : Bool :=
  c.toNat ≤ 0x20 || c.toNat == 0x7F || "%#/:<>?@[\\]^|".toList.contains c

/-- Characters that no opaque host contains. -/
def isForbiddenOpaque (c : Char) : Bool :=
  c.toNat == 0 || c == '\t' || c == '\n' || c == '\r' || c == ' ' ||
    "#/:<>?@[\\]^|".toList.contains c

end AlertRouter.Url.Host
