import AlertRouter.Matcher.Basic
import AlertRouter.Text.Trim

/-! # Matcher expressions

The text form of matchers: `name="value"`, several of them separated by commas, with or without
braces around.  A value without quotes ends at the comma.  Within quotes a backslash stands before
a quote, a backslash or the letter `n` for a line end; before any other character it stands for
itself. -/

namespace AlertRouter

namespace Matcher

open Unicode (isBlank)

/-! ### Writing -/

/-- How a character of a value is written between quotes. -/
def escapeChar (c : Char) : List Char :=
  if c = '\\' then ['\\', '\\']
  else if c = '"' then ['\\', '"']
  else if c = '\n' then ['\\', 'n']
  else [c]

def escape (cs : List Char) : List Char := cs.flatMap escapeChar

/-- The text of a matcher. -/
def text (m : Matcher) : String :=
  m.name ++ m.comparison.symbol ++ String.ofList ('"' :: escape m.value.toList ++ ['"'])

/-! ### Reading one matcher -/

/-- The characters that an escaped text stands for. -/
def unescape : List Char → List Char
  | [] => []
  | '\\' :: 'n' :: cs => '\n' :: unescape cs
  | '\\' :: '"' :: cs => '"' :: unescape cs
  | '\\' :: '\\' :: cs => '\\' :: unescape cs
  | c :: cs => c :: unescape cs

def isNameStart (c : Char) : Bool := c.isAlpha || c == '_' || c == ':'

def isNameChar (c : Char) : Bool := c.isAlphanum || c == '_' || c == ':'

/-- The comparison at the front of a text, and what follows it. -/
def readComparison? : List Char → Option (Comparison × List Char)
  | '=' :: '~' :: cs => some (.regexp, cs)
  | '!' :: '~' :: cs => some (.notRegexp, cs)
  | '!' :: '=' :: cs => some (.notEqual, cs)
  | '=' :: cs => some (.equal, cs)
  | _ => none

/-- An expression taken apart: the name, the comparison and the value as it is written.  Blanks may
stand before and after each of them; a written value has no line end. -/
def split? (cs : List Char) : Option (List Char × Comparison × List Char) :=
  let cs := Text.trim cs
  match cs with
  | [] => none
  | c :: _ =>
    if isNameStart c then
      (readComparison? (Text.trimStart (cs.dropWhile isNameChar))).bind fun (op, rest) =>
        let raw := Text.trimStart rest
        if '\n' ∈ raw then none else some (cs.takeWhile isNameChar, op, raw)
    else none

/-- The value that is written as `raw` in the expression `expr`. -/
def readValue (expr : String) (raw : List Char) : Except MatcherFault (List Char) :=
  match raw with
  | '"' :: quoted =>
    if quoted.getLast? = some '"' then .ok (unescape quoted.dropLast)
    else .error (.unterminatedQuote expr)
  | _ => if '"' ∈ raw then .error (.strayQuote expr) else .ok raw

/-- Reads one matcher. -/
def parse (expr : String) : Except MatcherFault Matcher :=
  match split? expr.toList with
  | none => .error (.format expr)
  | some (name, op, raw) => (readValue expr raw).bind fun value =>
    ofComparison op (String.ofList name) (String.ofList value)

/-! ### Reading a list of matchers -/

/-- Where a reader stands: outside quotes, inside, or inside after a backslash. -/
inductive QuoteState where
  | outside
  | inside
  | escaped
deriving DecidableEq, Repr

namespace QuoteState

/-- The state after one more character. -/
def next : QuoteState → Char → QuoteState
  | outside, c => if c = '"' then inside else outside
  | inside, c => if c = '"' then outside else if c = '\\' then escaped else inside
  | escaped, _ => inside

end QuoteState

/-- The parts between the commas that stand outside of quotes, the first one completed by the
reversed characters `current`; `none` if a quote is left open. -/
def splitFrom? : QuoteState → List Char → List Char → Option (List (List Char))
  | .outside, current, [] => some [current.reverse]
  | _, _, [] => none
  | s, current, c :: cs =>
    if s = .outside ∧ c = ',' then (splitFrom? .outside [] cs).map (current.reverse :: ·)
    else splitFrom? (s.next c) (c :: current) cs

def split (cs : List Char) : Except MatcherFault (List (List Char)) :=
  match splitFrom? .outside [] cs with
  | some parts => .ok parts
  | none => .error (.unterminatedQuotes (String.ofList cs))

/-- The text without the braces around it, which come in pairs. -/
def withoutBraces? (cs : List Char) : Option (List Char) :=
  match cs.head? == some '\x7b', cs.getLast? == some '\x7d' with
  | true, true => some (cs.drop 1).dropLast
  | false, false => some cs
  | _, _ => none

/-- Reads a list of matchers; blank parts between commas are passed over. -/
def parseList (text : String) : Except MatcherFault (List Matcher) :=
  match withoutBraces? (Text.trim text.toList) with
  | none => .error (.unbalancedBraces text)
  | some inner => (split inner).bind fun parts =>
    (parts.filter fun part => !(part.all isBlank)).mapM fun part => parse (String.ofList part)

end Matcher

end AlertRouter
