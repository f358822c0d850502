import AlertRouter.Error
import AlertRouter.Regex.Anchored

/-! # Matchers

A matcher is a condition on one label: its value is equal to a text or fits a pattern, or the
negation of that.  A label that is absent has the empty value.

A list of matchers filters label sets (`Matcher.selects`).  There, a matcher with an empty text is
a condition on the presence of the label alone: `=` and `=~` hold where it is absent, `!=` and `!~`
where it is present. -/

namespace AlertRouter

/-- The four kinds of matchers. -/
inductive Comparison where
  | equal
  | notEqual
  | regexp
  | notRegexp
deriving DecidableEq, Repr

namespace Comparison

def all : List Comparison := [equal, notEqual, regexp, notRegexp]

def symbol : Comparison → String
  | equal => "="
  | notEqual => "!="
  | regexp => "=~"
  | notRegexp => "!~"

/-- The name of the comparison in stored records. -/
def name : Comparison → String
  | equal => "Equal"
  | notEqual => "NotEqual"
  | regexp => "Regexp"
  | notRegexp => "NotRegexp"

def codec : Codec Comparison := .variant (all.map fun c => (c.name, c)) name

def isNegative : Comparison → Bool
  | notEqual | notRegexp => true
  | equal | regexp => false

def isRegex : Comparison → Bool
  | regexp | notRegexp => true
  | equal | notEqual => false

def ofFlags (isRegex isEqual : Bool) : Comparison :=
  match isRegex, isEqual with
  | false, true => equal
  | false, false => notEqual
  | true, true => regexp
  | true, false => notRegexp

/-- The comparison of a symbol. -/
def ofSymbol? (s : String) : Option Comparison := all.find? (·.symbol == s)

end Comparison

/-- What a value is compared with. -/
inductive Matcher.Subject where
  | text (value : String)
  | pattern (p : AnchoredPattern)
deriving DecidableEq, Repr

/-- A condition on the value of the label `name`. -/
structure Matcher where
  name : String
  negated : Bool
  subject : Matcher.Subject
deriving DecidableEq, Repr

namespace Matcher

namespace Subject

/-- The text as it was given. -/
def source : Subject → String
  | text value => value
  | pattern p => p.source

def isPattern : Subject → Bool
  | text _ => false
  | pattern _ => true

/-- Does a value agree with the subject? -/
def accepts : Subject → String → Bool
  | text value, v => v == value
  | pattern p, v => p.fits v

end Subject

/-- The text or the pattern of the matcher. -/
def value (m : Matcher) : String := m.subject.source

def comparison (m : Matcher) : Comparison := .ofFlags m.subject.isPattern (!m.negated)

/-- The matcher of a comparison; a pattern that denotes no expression is an error. -/
def ofComparison (c : Comparison) (name value : String) : Except MatcherFault Matcher :=
  if c.isRegex then
    match AnchoredPattern.ofSource? value with
    | some p => .ok ⟨name, c.isNegative, .pattern p⟩
    | none => .error (.pattern (name ++ c.symbol ++ Text.quoted value))
  else .ok ⟨name, c.isNegative, .text value⟩

theorem ofComparison_comparison (m : Matcher) :
    ofComparison m.comparison m.name m.value = .ok m := by
  obtain ⟨name, negated, subject⟩ := m
  cases subject with
  | text value => cases negated <;> rfl
  | pattern p =>
    cases negated <;>
      simp [ofComparison, comparison, value, Subject.source, Subject.isPattern,
        Comparison.ofFlags, Comparison.isRegex, Comparison.isNegative,
        AnchoredPattern.ofSource?_source]

/-- The matcher for one value. -/
def equal (name value : String) : Matcher := ⟨name, false, .text value⟩

/-- Does the condition hold of a value? -/
def holds (m : Matcher) (value : String) : Bool := m.subject.accepts value != m.negated

/-- Does the condition hold of a label set, an absent label having the empty value? -/
def holdsOf (m : Matcher) (labels : LabelSet) : Bool := m.holds (labels.getD m.name "")

/-- Does a filter of this one matcher select a label set? -/
def selectsOne (labels : LabelSet) (m : Matcher) : Bool :=
  (m.value == "" && m.negated == labels.contains m.name) || m.holdsOf labels

/-- Does a filter select a label set? -/
def selects (filter : List Matcher) (labels : LabelSet) : Bool :=
  filter.all (selectsOne labels)

/-! ### Matchers in documents -/

/-- A matcher as it is given to and by the API. -/
structure Wire where
  name : String
  value : String
  isRegex : Bool
  isEqual : Bool
deriving DecidableEq, Repr

namespace Wire

def schema : Schema Wire where
  name := "MatcherWire"
  blank := ⟨"", "", false, true⟩
  fields := [
    .must "name" .text (·.name) fun v x => { x with name := v },
    .must "value" .text (·.value) fun v x => { x with value := v },
    .may "isRegex" .flag (·.isRegex) fun v x => { x with isRegex := v },
    .may "isEqual" .flag (·.isEqual) fun v x => { x with isEqual := v }]

def ofMatcher (m : Matcher) : Wire := ⟨m.name, m.value, m.subject.isPattern, !m.negated⟩

def matcher (w : Wire) : Except AlertError Matcher :=
  (ofComparison (.ofFlags w.isRegex w.isEqual) w.name w.value).mapError .badMatcher

end Wire

def codec : Codec Matcher where
  read d := (Wire.schema.read d).bind fun w => w.matcher.mapError fun e => .rejected e.message
  write m := Wire.schema.write (.ofMatcher m)

end Matcher

end AlertRouter
