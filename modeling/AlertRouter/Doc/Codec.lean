import AlertRouter.Data.SortedMap
import AlertRouter.Doc.Basic

/-! # Reading and writing documents

A `Codec` reads a type of the program from a document and writes it back.  Structures are described
by a `Schema`: one list of fields serves both directions, so what is written and what is read cannot
drift apart.

* A schema reads a record in the order of its entries.  Unknown entries are passed over; an entry
  that comes twice, an entry that cannot be read and, last of all, a missing required entry are
  errors.
* It also reads a list, which gives the fields in the order of the schema.
* A field that was not given keeps the value of the schema's `blank`. -/

namespace AlertRouter

/-- Why a document could not be read. -/
inductive DecodeError where
  | wrongType (found expected : String)
  | wrongValue (found expected : String)
  | wrongLength (length : Nat) (expected : String)
  | tooLong (length : Nat)
  | trailing
  | unknownVariant (name : String) (known : List String)
  | missingField (name : String)
  | duplicateField (name : String)
  | rejected (reason : String)
deriving DecidableEq, Repr

namespace DecodeError

/-- A name between backticks. -/
def ticked (name : String) : String := "`" ++ name ++ "`"

def message : DecodeError → String
  | wrongType found expected => "invalid type: " ++ found ++ ", expected " ++ expected
  | wrongValue found expected => "invalid value: " ++ found ++ ", expected " ++ expected
  | wrongLength length expected =>
    "invalid length " ++ toString length ++ ", expected " ++ expected
  | tooLong length =>
    "invalid length " ++ toString length ++ ", expected fewer elements in array"
  | trailing => "trailing characters"
  | unknownVariant name known =>
    "unknown variant " ++ ticked name ++ ", expected " ++
      (match known with
        | [one] => ticked one
        | [one, two] => ticked one ++ " or " ++ ticked two
        | _ => "one of " ++ String.intercalate ", " (known.map ticked))
  | missingField name => "missing field " ++ ticked name
  | duplicateField name => "duplicate field " ++ ticked name
  | rejected reason => reason

/-- The same error for a list that was read from a text: surplus elements are surplus text. -/
def ofText : DecodeError → DecodeError
  | tooLong _ => trailing
  | e => e

end DecodeError

/-- How a type is read from documents and written to them. -/
structure Codec (α : Type) where
  read : Doc → Except DecodeError α
  write : α → Doc

namespace Codec

/-- The error of finding the wrong kind of document. -/
def unexpected {α : Type} (d : Doc) (expected : String) : Except DecodeError α :=
  .error (.wrongType d.describe expected)

def readText (expected : String) : Doc → Except DecodeError String
  | .text s => .ok s
  | .plain s => .ok s
  | d => unexpected d expected

def text : Codec String := ⟨readText "a string", .text⟩

/-- A type that is written as a text; `parse` says what is wrong with a text that is none. -/
def parsed {α : Type} (expected : String) (parse : String → Except String α)
    (print : α → String) : Codec α where
  read d := (readText expected d).bind fun s => (parse s).mapError .rejected
  write x := .text (print x)

/-- The flags of YAML. -/
def flagOfPlain? (s : String) : Option Bool :=
  if s = "true" ∨ s = "True" ∨ s = "TRUE" then some true
  else if s = "false" ∨ s = "False" ∨ s = "FALSE" then some false
  else none

def readFlag : Doc → Except DecodeError Bool
  | .bool b => .ok b
  | .plain s => match flagOfPlain? s with
    | some b => .ok b
    | none => unexpected (.plain s) "a boolean"
  | d => unexpected d "a boolean"

def flag : Codec Bool := ⟨readFlag, .bool⟩

/-- The value of a digit in some base up to 16. -/
def digitValue? (base : Nat) (c : Char) : Option Nat :=
  let n := c.toNat
  let v :=
    if c.isDigit then some (n - '0'.toNat)
    else if 'a' ≤ c ∧ c ≤ 'f' then some (n - 'a'.toNat + 10)
    else if 'A' ≤ c ∧ c ≤ 'F' then some (n - 'A'.toNat + 10)
    else none
  v.bind fun v => if v < base then some v else none

/-- The number of a non-empty list of digits, after those that give `n`. -/
def digitsValue? (base : Nat) (n : Nat) : List Char → Option Nat
  | [] => some n
  | c :: cs => match digitValue? base c with
    | some v => digitsValue? base (n * base + v) cs
    | none => none

def unsigned? (base : Nat) : List Char → Option Nat
  | [] => none
  | cs => digitsValue? base 0 cs

/-- The natural numbers of YAML: an optional plus sign, then `0x`, `0o` or `0b` digits, or decimal
digits that do not start with a superfluous zero. -/
def naturalOfPlain? (s : String) : Option Nat :=
  let cs := s.toList
  let cs := if cs.head? = some '+' then cs.drop 1 else cs
  match cs with
  | '0' :: 'x' :: rest => unsigned? 16 rest
  | '0' :: 'o' :: rest => unsigned? 8 rest
  | '0' :: 'b' :: rest => unsigned? 2 rest
  | '0' :: _ :: _ => none
  | _ => unsigned? 10 cs

/-- The greatest natural number of 64 bits. -/
def maxNatural : Nat := UInt64.size - 1

def readNatural : Doc → Except DecodeError Nat
  | .number (.integer i) =>
    if 0 ≤ i ∧ i ≤ maxNatural then .ok i.toNat
    else .error (.wrongValue (Doc.number (.integer i)).describe "u64")
  | .plain s => match naturalOfPlain? s with
    | some n => if n ≤ maxNatural then .ok n else unexpected (.plain s) "u64"
    | none => unexpected (.plain s) "u64"
  | d => unexpected d "u64"

/-- Natural numbers of at most 64 bits. -/
def natural : Codec Nat := ⟨readNatural, .nat⟩

/-- Is an unquoted scalar an absent value? -/
def plainIsNull (s : String) : Bool :=
  s = "" ∨ s = "~" ∨ s = "null" ∨ s = "Null" ∨ s = "NULL"

/-- A value that may be absent; absence is written as `null`. -/
def optional {α : Type} (c : Codec α) : Codec (Option α) where
  read
    | .null => .ok none
    | .plain s => if plainIsNull s then .ok none else (c.read (.plain s)).map some
    | d => (c.read d).map some
  write
    | none => .null
    | some x => c.write x

/-- Lists of any length. -/
def list {α : Type} (c : Codec α) : Codec (List α) where
  read
    | .list items => items.mapM c.read
    | .plain "" => .ok []
    | d => unexpected d "a sequence"
  write xs := .list (xs.map c.write)

/-- Maps from names; of two entries with one name the later one counts. -/
def map {α : Type} (c : Codec α) : Codec (SortedMap String α) where
  read
    | .record fields =>
      (fields.mapM fun f => (c.read f.2).map fun x => (f.1, x)).map .ofList
    | .plain "" => .ok .empty
    | d => unexpected d "a map"
  write m := .record (m.entries.map fun e => (e.1, c.write e.2))

/-- One of finitely many values, each with its name. -/
def variant {α : Type} [DecidableEq α] (names : List (String × α)) (nameOf : α → String) :
    Codec α where
  read
    | .text s => ofName s
    | .plain s => ofName s
    | .record [(s, content)] => (ofName s).bind fun x => match content with
      | .null => .ok x
      | d => unexpected d "unit"
    | .record _ => .error (.wrongValue "map" "map with a single key")
    | d => unexpected d "string or map"
  write x := .text (nameOf x)
where
  ofName (s : String) : Except DecodeError α := match names.lookup s with
    | some x => .ok x
    | none => .error (.unknownVariant s (names.map (·.1)))

end Codec

/-- One field of a structure: how a document changes it, and how it is written, if at all. -/
structure Field (σ : Type) where
  name : String
  required : Bool
  read : Doc → Except DecodeError (σ → σ)
  write : σ → Option Doc

namespace Field

variable {σ α : Type}

/-- A field that has to be given. -/
def must (name : String) (c : Codec α) (get : σ → α) (set : α → σ → σ) : Field σ :=
  ⟨name, true, fun d => (c.read d).map set, fun x => some (c.write (get x))⟩

/-- A field that may be left out when reading and is always written. -/
def may (name : String) (c : Codec α) (get : σ → α) (set : α → σ → σ) : Field σ :=
  ⟨name, false, fun d => (c.read d).map set, fun x => some (c.write (get x))⟩

/-- A field that may be left out when reading and is not written when `skip` holds. -/
def omitting (skip : α → Bool) (name : String) (c : Codec α) (get : σ → α) (set : α → σ → σ) :
    Field σ :=
  ⟨name, false, fun d => (c.read d).map set,
    fun x => if skip (get x) then none else some (c.write (get x))⟩

/-- A field whose absent value is not written. -/
def maybe (name : String) (c : Codec α) (get : σ → Option α) (set : Option α → σ → σ) : Field σ :=
  omitting Option.isNone name c.optional get set

end Field

/-- The shape of a structure in documents. -/
structure Schema (σ : Type) where
  name : String
  blank : σ
  fields : List (Field σ)

namespace Schema

variable {σ : Type}

/-- How errors name a record of this shape. -/
def expected (s : Schema σ) : String := "struct " ++ s.name

def expectedLength (s : Schema σ) : String :=
  s.expected ++ " with " ++ toString s.fields.length ++
    (if s.fields.length = 1 then " element" else " elements")

/-- Reads the entries of a record in their order, given the names that came before. -/
def readEntries (s : Schema σ) : List (String × Doc) → List String → σ →
    Except DecodeError (List String × σ)
  | [], seen, x => .ok (seen, x)
  | (name, d) :: rest, seen, x =>
    match s.fields.find? (·.name == name) with
    | none => readEntries s rest seen x
    | some f =>
      if name ∈ seen then .error (.duplicateField name)
      else (f.read d).bind fun change => readEntries s rest (name :: seen) (change x)

/-- The first required field that is not among the names seen. -/
def missing? (s : Schema σ) (seen : List String) : Option String :=
  (s.fields.find? fun f => f.required && !seen.contains f.name).map (·.name)

def readRecord (s : Schema σ) (entries : List (String × Doc)) : Except DecodeError σ :=
  (s.readEntries entries [] s.blank).bind fun (seen, x) =>
    match s.missing? seen with
    | some name => .error (.missingField name)
    | none => .ok x

/-- Reads the items of a list as the fields of the schema; `index` fields have been read. -/
def readItems (s : Schema σ) : List (Field σ) → List Doc → Nat → σ → Except DecodeError σ
  | [], [], _, x => .ok x
  | [], rest, index, _ => .error (.tooLong (index + rest.length))
  | f :: fs, [], index, x =>
    if f.required then .error (.wrongLength index s.expectedLength)
    else readItems s fs [] (index + 1) x
  | f :: fs, d :: ds, index, x =>
    (f.read d).bind fun change => readItems s fs ds (index + 1) (change x)

def read (s : Schema σ) : Doc → Except DecodeError σ
  | .record entries => s.readRecord entries
  | .list items => s.readItems s.fields items 0 s.blank
  | .plain "" => s.readRecord []
  | d => Codec.unexpected d s.expected

/-- The fields that are written, in the order of the schema. -/
def writeFields (s : Schema σ) (x : σ) : List (String × Doc) :=
  s.fields.filterMap fun f => (f.write x).map fun d => (f.name, d)

def write (s : Schema σ) (x : σ) : Doc := .record (s.writeFields x)

def codec (s : Schema σ) : Codec σ := ⟨s.read, s.write⟩

end Schema

end AlertRouter
