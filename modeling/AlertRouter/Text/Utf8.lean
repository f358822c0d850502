/-! # UTF-8

Characters as bytes and back.  Decoding is lossy: bytes that are no encoding of a character become
the replacement character, one for each maximal part of an encoding that was broken off. -/

namespace AlertRouter.Utf8

/-- The bytes of some characters. -/
def encode (cs : List Char) : List UInt8 := cs.flatMap String.utf8EncodeChar

/-- Stands for bytes that are no text. -/
def replacement : Char := '\uFFFD'

/-- How many bytes follow a first byte, the bounds of the next one, and the bits it carries. -/
def leading? (b : UInt8) : Option (Nat × Nat × Nat × Nat) :=
  let n := b.toNat
  if n < 0x80 then some (0, 0x80, 0xBF, n)
  else if 0xC2 ≤ n ∧ n ≤ 0xDF then some (1, 0x80, 0xBF, n - 0xC0)
  else if n = 0xE0 then some (2, 0xA0, 0xBF, 0)
  else if n = 0xED then some (2, 0x80, 0x9F, 0xD)
  else if 0xE1 ≤ n ∧ n ≤ 0xEF then some (2, 0x80, 0xBF, n - 0xE0)
  else if n = 0xF0 then some (3, 0x90, 0xBF, 0)
  else if 0xF1 ≤ n ∧ n ≤ 0xF3 then some (3, 0x80, 0xBF, n - 0xF0)
  else if n = 0xF4 then some (3, 0x80, 0x8F, 4)
  else none

/-- A character that has been read in part: the bytes to come, the bounds of the next one, and the
bits so far. -/
structure Pending where
  count : Nat
  low : Nat
  high : Nat
  bits : Nat

/-- Reads one byte that starts a character. -/
def start (b : UInt8) : List (Option Char) × Option Pending :=
  match leading? b with
  | none => ([none], none)
  | some (0, _, _, bits) => ([some (Char.ofNat bits)], none)
  | some (count, low, high, bits) => ([], some ⟨count, low, high, bits⟩)

/-- Reads one byte: the characters that are now complete, `none` for broken bytes. -/
def step (pending : Option Pending) (b : UInt8) : List (Option Char) × Option Pending :=
  match pending with
  | none => start b
  | some p =>
    if p.low ≤ b.toNat ∧ b.toNat ≤ p.high then
      let bits := p.bits * 64 + (b.toNat - 0x80)
      if p.count = 1 then ([some (Char.ofNat bits)], none)
      else ([], some ⟨p.count - 1, 0x80, 0xBF, bits⟩)
    else
      let (cs, p) := start b
      (none :: cs, p)

/-- The characters of some bytes, `none` for each broken part. -/
def decodeFrom (pending : Option Pending) : List UInt8 → List (Option Char)
  | [] => match pending with
    | none => []
    | some _ => [none]
  | b :: bs =>
    let (cs, p) := step pending b
    cs ++ decodeFrom p bs

/-- The characters of some bytes, broken parts replaced. -/
def decodeLossy (bytes : List UInt8) : List Char :=
  (decodeFrom none bytes).map (·.getD replacement)

/-- The characters of some bytes, if nothing is broken. -/
def decode? (bytes : List UInt8) : Option (List Char) := (decodeFrom none bytes).mapM id

end AlertRouter.Utf8
