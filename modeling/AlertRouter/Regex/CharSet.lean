import AlertRouter.Unicode.Case
import AlertRouter.Unicode.Property
import AlertRouter.Unicode.Script

/-! # Sets of characters

Character classes of regular expressions, as terms: a set is described, not listed, and `contains`
says what it means. -/

namespace AlertRouter.Regex

/-- A named property of characters. -/
inductive Property where
  | digit
  | blank
  | word
  | alphabetic
  | lowercase
  | uppercase
deriving DecidableEq, Hashable, Repr

def Property.holds : Property → Char → Bool
  | digit, c => Unicode.isDecimalDigit c
  | blank, c => Unicode.isBlank c
  | word, c => Unicode.isWord c
  | alphabetic, c => Unicode.isAlphabetic c
  | lowercase, c => Unicode.isLowercase c
  | uppercase, c => Unicode.isUppercase c

/-- A set of characters. -/
inductive CharSet where
  | none
  | range (first last : Char)
  | property (p : Property)
  | categories (cs : List Unicode.Category)
  | script (name : String)
  | union (s t : CharSet)
  | inter (s t : CharSet)
  | compl (s : CharSet)
  | anyCase (s : CharSet)
  | anyAsciiCase (s : CharSet)
deriving DecidableEq, Hashable, Repr

namespace CharSet

/-- Is the character in the set? -/
def contains : CharSet → Char → Bool
  | none, _ => false
  | range first last, c => first.toNat ≤ c.toNat && c.toNat ≤ last.toNat
  | property p, c => p.holds c
  | categories cs, c => cs.contains (Unicode.Category.ofChar c)
  | script name, c => Unicode.Script.ofChar c == name
  | union s t, c => s.contains c || t.contains c
  | inter s t, c => s.contains c && t.contains c
  | compl s, c => !s.contains c
  | anyCase s, c => (Unicode.Case.orbit c).any s.contains
  | anyAsciiCase s, c => s.contains c || s.contains c.toLower || s.contains c.toUpper

def single (c : Char) : CharSet := range c c

/-- All characters. -/
def all : CharSet := compl none

/-- The union of several sets. -/
def unions (sets : List CharSet) : CharSet := sets.foldr union none

/-- The characters of one set that are not in the other. -/
def diff (s t : CharSet) : CharSet := inter s (compl t)

/-- The characters of exactly one of two sets. -/
def symmDiff (s t : CharSet) : CharSet := union (diff s t) (diff t s)

@[simp] theorem contains_all (c : Char) : all.contains c = true := rfl

@[simp] theorem contains_single (c d : Char) : (single c).contains d = (c == d) := by
  have h : (c = d) ↔ c.toNat = d.toNat :=
    ⟨fun h => h ▸ rfl, fun h => Char.ext (UInt32.toNat_inj.1 h)⟩
  by_cases e : c = d
  · subst e; simp [single, contains]
  · have := mt h.2 e
    simp only [single, contains, beq_eq_false_iff_ne.2 e]
    simp only [Bool.and_eq_false_imp, decide_eq_true_eq, decide_eq_false_iff_not]
    omega

/-- A range of ASCII characters. -/
def ascii (first last : Char) : CharSet := range first last

def asciiDigit : CharSet := ascii '0' '9'
def asciiLower : CharSet := ascii 'a' 'z'
def asciiUpper : CharSet := ascii 'A' 'Z'
def asciiAlpha : CharSet := union asciiUpper asciiLower
def asciiWord : CharSet := unions [asciiAlpha, asciiDigit, single '_']
def asciiBlank : CharSet := union (ascii '\t' '\r') (single ' ')

/-- The classes that are named between `[:` and `:]`. -/
def named? (name : String) : Option CharSet :=
  match name with
  | "alnum" => some (union asciiAlpha asciiDigit)
  | "alpha" => some asciiAlpha
  | "ascii" => some (ascii '\x00' '\x7f')
  | "blank" => some (union (single '\t') (single ' '))
  | "cntrl" => some (union (ascii '\x00' '\x1f') (single '\x7f'))
  | "digit" => some asciiDigit
  | "graph" => some (ascii '!' '~')
  | "lower" => some asciiLower
  | "print" => some (ascii ' ' '~')
  | "punct" => some (unions [ascii '!' '/', ascii ':' '@', ascii '[' '`', ascii '{' '~'])
  | "space" => some asciiBlank
  | "upper" => some asciiUpper
  | "word" => some asciiWord
  | "xdigit" => some (unions [asciiDigit, ascii 'A' 'F', ascii 'a' 'f'])
  | _ => Option.none

end CharSet

/-! ### Names of Unicode classes -/

namespace UnicodeClass

open Unicode (Category)

/-- Names are compared without case, blanks, hyphens, underscores and a leading `is`. -/
def normalize (name : String) : String :=
  let cs := (name.toList.filter fun c => c != ' ' && c != '_' && c != '-' && !Unicode.isBlank c).map
    Char.toLower
  String.ofList (match cs with
    | 'i' :: 's' :: rest => if rest.isEmpty ∨ rest = ['c'] then cs else rest
    | _ => cs)

/-- The long names of the general categories and of their groups, with the short names. -/
def longNames : List (String × String) := [
  ("other", "c"), ("control", "cc"), ("cntrl", "cc"), ("format", "cf"), ("unassigned", "cn"),
  ("privateuse", "co"), ("surrogate", "cs"), ("letter", "l"), ("casedletter", "lc"),
  ("lowercaseletter", "ll"), ("modifierletter", "lm"), ("otherletter", "lo"),
  ("titlecaseletter", "lt"), ("uppercaseletter", "lu"), ("mark", "m"), ("combiningmark", "m"),
  ("spacingmark", "mc"), ("enclosingmark", "me"), ("nonspacingmark", "mn"), ("number", "n"),
  ("decimalnumber", "nd"), ("digit", "nd"), ("letternumber", "nl"), ("othernumber", "no"),
  ("punctuation", "p"), ("punct", "p"), ("connectorpunctuation", "pc"),
  ("dashpunctuation", "pd"), ("closepunctuation", "pe"), ("finalpunctuation", "pf"),
  ("initialpunctuation", "pi"), ("otherpunctuation", "po"), ("openpunctuation", "ps"),
  ("symbol", "s"), ("currencysymbol", "sc"), ("modifiersymbol", "sk"), ("mathsymbol", "sm"),
  ("othersymbol", "so"), ("separator", "z"), ("lineseparator", "zl"),
  ("paragraphseparator", "zp"), ("spaceseparator", "zs")]

/-- The categories of a short name: one of them, or all whose names start with its letter.
Surrogates are no characters, so there is no class of them. -/
def ofShortName? (name : String) : Option CharSet :=
  if name = "lc" then
    some (.categories [.uppercaseLetter, .lowercaseLetter, .titlecaseLetter])
  else if name = "cs" then none
  else
    let found := Category.names.filter fun (n, _) =>
      let n := n.toList.map Char.toLower
      n = name.toList ∨ n.take 1 = name.toList
    if found.isEmpty then none else some (.categories (found.map (·.2)))

def category? (name : String) : Option CharSet :=
  match name with
  | "any" => some .all
  | "assigned" => some (.compl (.categories [.unassigned]))
  | "ascii" => some (.ascii '\x00' '\x7f')
  | _ => ofShortName? ((longNames.lookup name).getD name)

def script? (name : String) : Option CharSet :=
  (Unicode.Script.codes.find? fun (code, long) =>
    normalize code == name || normalize long == name).map fun (_, long) => .script long

def property? (name : String) : Option CharSet :=
  match name with
  | "alphabetic" | "alpha" => some (.property .alphabetic)
  | "lowercase" | "lower" => some (.property .lowercase)
  | "uppercase" | "upper" => some (.property .uppercase)
  | "whitespace" | "wspace" | "space" => some (.property .blank)
  | _ => none

/-- The class of a single name: a property, a category or a script. -/
def ofName? (name : String) : Option CharSet :=
  let name := normalize name
  (property? name).or ((category? name).or (script? name))

/-- The class of a property with a value. -/
def ofPair? (property value : String) : Option CharSet :=
  match normalize property with
  | "generalcategory" | "gc" => category? (normalize value)
  | "script" | "sc" | "scriptextensions" | "scx" => script? (normalize value)
  | _ => none

end UnicodeClass

end AlertRouter.Regex
