import AlertRouter.Hash.Blake3
import AlertRouter.Label.Basic

/-! # Fingerprints

A label set is named by 64 bits of its hash.  What is hashed is the sequence of the names and values
in the order of the names, each followed by a byte that no text contains. -/

namespace AlertRouter

/-- The name of a label set: 64 bits. -/
structure Fingerprint where
  bits : UInt64
deriving DecidableEq, Repr

namespace Fingerprint

instance : Ord Fingerprint := ⟨fun a b => compare a.bits b.bits⟩

theorem compare_eq (a b : Fingerprint) : compare a b = compare a.bits b.bits := rfl

instance : Std.TransOrd Fingerprint where
  eq_swap {a b} := by
    rw [compare_eq, compare_eq]
    exact Std.OrientedCmp.eq_swap
  isLE_trans {a b c} h h' := by
    rw [compare_eq] at h h' ⊢
    exact Std.TransCmp.isLE_trans h h'

instance : Std.LawfulEqOrd Fingerprint where
  compare_self {a} := by
    rw [compare_eq]
    exact Std.ReflCmp.compare_self
  eq_of_compare {a b} h := by
    rw [compare_eq] at h
    cases a; cases b
    exact congrArg mk (Std.LawfulEqCmp.eq_of_compare h)

/-- The byte after each name and value; it occurs in no encoded text. -/
def separator : UInt8 := 0xFF

/-- The bytes of a text. -/
def textBytes (s : String) : List UInt8 := s.toList.flatMap String.utf8EncodeChar

/-- The bytes that stand for a label set. -/
def labelBytes (labels : LabelSet) : List UInt8 :=
  labels.entries.flatMap fun e => textBytes e.1 ++ separator :: textBytes e.2 ++ [separator]

/-- The big-endian number of some bytes. -/
def bigEndian (bytes : List UInt8) : Nat := bytes.foldl (fun n b => 256 * n + b.toNat) 0

/-- The fingerprint of a label set. -/
def of (labels : LabelSet) : Fingerprint :=
  ⟨(bigEndian ((Blake3.digest (labelBytes labels)).take 8)).toUInt64⟩

/-! ### Text form -/

/-- Sixteen hexadecimal digits. -/
def text (f : Fingerprint) : String :=
  let ds := Nat.toDigits 16 f.bits.toNat
  String.ofList (List.replicate (16 - ds.length) '0' ++ ds)

/-- Why a text is not a hexadecimal number of 64 bits. -/
inductive Fault where
  | empty
  | invalidDigit
  | tooLarge
deriving DecidableEq, Repr

def Fault.message : Fault → String
  | empty => "cannot parse integer from empty string"
  | invalidDigit => "invalid digit found in string"
  | tooLarge => "number too large to fit in target type"

/-- Reads hexadecimal digits after those that gave `n`. -/
def parseDigits (n : Nat) : List Char → Except Fault Nat
  | [] => .ok n
  | c :: cs => match Codec.digitValue? 16 c with
    | none => .error .invalidDigit
    | some v => if 16 * n + v < UInt64.size then parseDigits (16 * n + v) cs else .error .tooLarge

/-- Reads a hexadecimal number of 64 bits; one plus sign may stand in front. -/
def parse (s : String) : Except Fault Fingerprint :=
  match s.toList with
  | [] => .error .empty
  | '+' :: [] => .error .invalidDigit
  | '+' :: cs => (parseDigits 0 cs).map fun n => ⟨n.toUInt64⟩
  | cs => (parseDigits 0 cs).map fun n => ⟨n.toUInt64⟩

/-- What is wrong with a text that is no fingerprint. -/
def parseMessage (s : String) (fault : Fault) : String :=
  "invalid fingerprint " ++ Text.quoted s ++ ": " ++ fault.message

/-- Fingerprints in documents: texts. -/
def codec : Codec Fingerprint :=
  .parsed "a string" (fun s => (parse s).mapError (parseMessage s)) text

end Fingerprint

end AlertRouter
