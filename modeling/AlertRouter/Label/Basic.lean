import AlertRouter.Data.SortedMap
import AlertRouter.Doc.Codec

/-! # Labels

An alert is identified by its labels: a map from names to values, in the order of the names.  A name
is a letter or underscore followed by letters, digits and underscores, all of them ASCII. -/

namespace AlertRouter

/-- A set of labels. -/
abbrev LabelSet := SortedMap String String

namespace Label

def isNameStart (c : Char) : Bool := c.isAlpha || c == '_'

def isNameChar (c : Char) : Bool := c.isAlphanum || c == '_'

/-- Is `name` a well-formed label name? -/
def isName (name : String) : Bool :=
  match name.toList with
  | [] => false
  | c :: cs => isNameStart c && cs.all isNameChar

end Label

namespace LabelSet

/-- The first name, in the order of the names, that is not well-formed. -/
def badName? (labels : LabelSet) : Option String := labels.keys.find? (! Label.isName ·)

/-- The labels with a value: a label with an empty value is as good as absent. -/
def withoutEmpty (labels : LabelSet) : LabelSet := labels.filter fun _ v => v != ""

def codec : Codec LabelSet := .map .text

end LabelSet

end AlertRouter
