import AlertRouter.Number.Binary64
import AlertRouter.Text.Quoted

/-! # Documents

The data that a JSON or a YAML text carries.  Both formats give the same documents, except that an
unquoted YAML scalar stays `plain`: whether it is a number, a flag or a string is up to whoever
reads it.  YAML also has data that nothing here can be read from (`complex`), such as maps whose
keys are lists. -/

namespace AlertRouter

/-- A number as it was written: an integer of 64 bits, or a decimal `digits · 10 ^ exponent`. -/
inductive Number where
  | integer (value : Int)
  | decimal (negative : Bool) (digits : Nat) (exponent : Int)
deriving DecidableEq, Repr

namespace Number

def text : Number → String
  | .integer value => toString value
  | .decimal negative digits exponent => Binary64.text negative digits exponent

end Number

/-- A tree of data. -/
inductive Doc where
  | null
  | bool (value : Bool)
  | number (value : Number)
  | text (value : String)
  | plain (value : String)
  | list (items : List Doc)
  | record (fields : List (String × Doc))
  | complex

namespace Doc

instance : Inhabited Doc := ⟨null⟩

/-- A natural number as a document. -/
def nat (n : Nat) : Doc := number (.integer n)

/-- What was found, in the words of a decoding error. -/
def describe : Doc → String
  | null => "null"
  | bool value => "boolean `" ++ toString value ++ "`"
  | number (.integer value) => "integer `" ++ toString value ++ "`"
  | number n => "floating point `" ++ n.text ++ "`"
  | text value => "string " ++ Text.quoted value
  | plain value => "string " ++ Text.quoted value
  | list _ => "sequence"
  | record _ => "map"
  | complex => "map"

/-- The value of a field of a record, the first one if there are several. -/
def field? (name : String) : Doc → Option Doc
  | record fields => fields.lookup name
  | _ => none

end Doc

end AlertRouter
