import AlertRouter.Doc.Codec
import AlertRouter.Regex.Basic

/-! # Escapes in patterns

What a backslash introduces: a literal character, a class, or an assertion.  The flags in force
decide about case, about blanks that do not count, and whether classes are those of Unicode. -/

namespace AlertRouter.Regex.Pattern

/-- The flags of a pattern. -/
structure Flags where
  ignoreCase : Bool
  multiLine : Bool
  dotNewLine : Bool
  swapGreed : Bool
  unicode : Bool
  crlf : Bool
  extended : Bool
deriving DecidableEq, Repr

def Flags.initial : Flags := ⟨false, false, false, false, true, false, false⟩

/-- What an escape or a plain character stands for. -/
inductive Primitive where
  | literal (c : Char)
  | class (s : CharSet)
  | assertion (l : Look)
deriving DecidableEq, Repr

/-- Drops a comment: everything up to the end of the line. -/
def dropComment : List Char → List Char
  | [] => []
  | c :: cs => if c = '\n' then cs else dropComment cs

theorem length_dropComment_le (cs : List Char) : (dropComment cs).length ≤ cs.length := by
  induction cs with
  | nil => simp [dropComment]
  | cons c cs ih =>
      unfold dropComment
      split
      · simp
      · rw [List.length_cons]
        omega

/-- In an extended pattern blanks and comments do not count. -/
def skipSpace (extended : Bool) : List Char → List Char
  | [] => []
  | c :: cs =>
    if extended && Unicode.isBlank c then skipSpace extended cs
    else if extended && c == '#' then skipSpace extended (dropComment cs)
    else c :: cs
termination_by cs => cs.length
decreasing_by
  · simp
  · have := length_dropComment_le cs; simp; omega

/-- The next character that counts, after one that has been read. -/
def nextChar? (f : Flags) (cs : List Char) : Option (Char × List Char) :=
  match skipSpace f.extended cs with
  | c :: cs => some (c, cs)
  | [] => none

/-- Is the number the code point of a character? -/
def charOf? (code : Nat) : Option Char :=
  if code < 0xD800 ∨ (0xDFFF < code ∧ code ≤ 0x10FFFF) then some (Char.ofNat code) else none

/-- Exactly `count` hexadecimal digits. -/
def hexDigits? (f : Flags) : Nat → List Char → Option (List Char × List Char)
  | 0, cs => some ([], cs)
  | count + 1, cs => match nextChar? f cs with
    | some (d, cs) =>
      if (Codec.digitValue? 16 d).isSome then
        (hexDigits? f count cs).map fun (ds, cs) => (d :: ds, cs)
      else none
    | none => none

/-- The text up to a closing brace, blanks and comments dropped; `fuel` bounds its length. -/
def braced? (f : Flags) : Nat → List Char → Option (List Char × List Char)
  | 0, _ => none
  | fuel + 1, cs => match nextChar? f cs with
    | none => none
    | some ('}', cs) => some ([], cs)
    | some (c, cs) => (braced? f fuel cs).map fun (text, cs) => (c :: text, cs)

/-- A character by its code point: `count` digits, or any number of digits in braces. -/
def hexChar? (f : Flags) (count : Nat) (cs : List Char) : Option (Char × List Char) :=
  match nextChar? f cs with
  | some ('{', rest) => match braced? f (rest.length + 1) rest with
    | some (ds, rest) =>
      ((Codec.unsigned? 16 ds).bind charOf?).map fun c => (c, skipSpace f.extended rest)
    | none => none
  | _ => match hexDigits? f count cs with
    | some (ds, rest) =>
      ((Codec.unsigned? 16 ds).bind charOf?).map fun c => (c, skipSpace f.extended rest)
    | none => none

/-- A set with the case variants of its characters, if case does not count; without Unicode these
are the ones in ASCII. -/
def folded (f : Flags) (s : CharSet) : CharSet :=
  if !f.ignoreCase then s else if f.unicode then .anyCase s else .anyAsciiCase s

/-- Splits a text at the first occurrence of a character. -/
def cut? (sep : Char) (cs : List Char) : Option (List Char × List Char) :=
  let front := cs.takeWhile (· != sep)
  match cs.drop front.length with
  | [] => none
  | _ :: back => some (front, back)

/-- The class that a name or a pair `property=value` denotes. -/
def unicodeClass? (name : List Char) : Option CharSet :=
  let pair := fun (p v : List Char) => UnicodeClass.ofPair? (String.ofList p) (String.ofList v)
  match cut? '!' name with
  | some (p, '=' :: v) => (pair p v).map .compl
  | _ => match cut? ':' name with
    | some (p, v) => pair p v
    | none => match cut? '=' name with
      | some (p, v) => pair p v
      | none => UnicodeClass.ofName? (String.ofList name)

/-- A Unicode class after `\p` or `\P`. -/
def unicodeEscape? (f : Flags) (negated : Bool) (cs : List Char) :
    Option (Primitive × List Char) :=
  let finish := fun (s : Option CharSet) (cs : List Char) =>
    if f.unicode then
      s.map fun s => (.class (if negated then .compl (folded f s) else folded f s), cs)
    else none
  match nextChar? f cs with
  | none => none
  | some ('{', rest) => match braced? f (rest.length + 1) rest with
    | some (name, rest) => finish (unicodeClass? name) rest
    | none => none
  | some ('\\', _) => none
  | some (c, rest) =>
    finish (UnicodeClass.category? (UnicodeClass.normalize (String.ofList [c])))
      (skipSpace f.extended rest)

/-- Digits, blanks and word characters, or all others; without Unicode a set must stay in ASCII. -/
def perlClass? (f : Flags) (unicode ascii : CharSet) (negated : Bool) : Option Primitive :=
  if f.unicode then some (.class (if negated then .compl unicode else unicode))
  else if negated then none
  else some (.class ascii)

/-- Characters with a meaning of their own in patterns. -/
def isMeta (c : Char) : Bool := "\\.+*?()|[]{}^$#&-~".toList.contains c

/-- May a backslash stand in front of the character without changing it? -/
def isEscapable (c : Char) : Bool :=
  isMeta c || (c.toNat < 0x80 && !c.isAlphanum && c != '<' && c != '>')

/-- The words that may stand in braces after `\b`. -/
def boundaryWord? (u : Bool) (word : List Char) : Option Look :=
  match String.ofList word with
  | "start" => some (.wordStart u)
  | "end" => some (.wordStop u)
  | "start-half" => some (.wordStartHalf u)
  | "end-half" => some (.wordStopHalf u)
  | _ => none

/-- The assertion after `\b`: a word in braces may say which one.  Braces that do not start with a
letter belong to a repetition. -/
def boundary? (f : Flags) (cs : List Char) : Option (Primitive × List Char) :=
  let u := f.unicode
  match cs with
  | '{' :: rest => match nextChar? f rest with
    | none => none
    | some (c, _) =>
      if c.isAlpha || c == '-' then
        match braced? f (rest.length + 1) rest with
        | some (word, rest) => (boundaryWord? u word).map fun l => (.assertion l, rest)
        | none => none
      else some (.assertion (.boundary u), cs)
  | _ => some (.assertion (.boundary u), cs)

/-- What follows a backslash. -/
def escape? (f : Flags) (cs : List Char) : Option (Primitive × List Char) :=
  let u := f.unicode
  let hex := fun (count : Nat) (rest : List Char) => (hexChar? f count rest).bind fun (c, rest) =>
    if !u && count == 2 && 0x80 ≤ c.toNat then none else some (.literal c, rest)
  match cs with
  | [] => none
  | c :: rest =>
    match c with
    | 'x' => hex 2 rest
    | 'u' => hex 4 rest
    | 'U' => hex 8 rest
    | 'p' => unicodeEscape? f false rest
    | 'P' => unicodeEscape? f true rest
    | 'd' => (perlClass? f (.property .digit) .asciiDigit false).map (·, rest)
    | 'D' => (perlClass? f (.property .digit) .asciiDigit true).map (·, rest)
    | 's' => (perlClass? f (.property .blank) .asciiBlank false).map (·, rest)
    | 'S' => (perlClass? f (.property .blank) .asciiBlank true).map (·, rest)
    | 'w' => (perlClass? f (.property .word) .asciiWord false).map (·, rest)
    | 'W' => (perlClass? f (.property .word) .asciiWord true).map (·, rest)
    | 'a' => some (.literal '\x07', rest)
    | 'f' => some (.literal '\x0c', rest)
    | 't' => some (.literal '\t', rest)
    | 'n' => some (.literal '\n', rest)
    | 'r' => some (.literal '\r', rest)
    | 'v' => some (.literal '\x0b', rest)
    | 'A' => some (.assertion .start, rest)
    | 'z' => some (.assertion .stop, rest)
    | 'b' => boundary? f rest
    | 'B' => some (.assertion (.noBoundary u), rest)
    | '<' => some (.assertion (.wordStart u), rest)
    | '>' => some (.assertion (.wordStop u), rest)
    | _ => if isEscapable c then some (.literal c, rest) else none

end AlertRouter.Regex.Pattern
