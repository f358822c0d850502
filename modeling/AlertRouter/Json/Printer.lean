import AlertRouter.Doc.Basic

/-! # Writing JSON text

Compact JSON: no blanks, short escapes where there are some, `\u` escapes for the other control
characters and nothing else escaped. -/

namespace AlertRouter.Json

/-- A string character between the quotes. -/
def escapeChar (c : Char) : List Char :=
  if c = '"' then ['\\', '"']
  else if c = '\\' then ['\\', '\\']
  else if c = '\n' then ['\\', 'n']
  else if c = '\r' then ['\\', 'r']
  else if c = '\t' then ['\\', 't']
  else if c = '\x08' then ['\\', 'b']
  else if c = '\x0c' then ['\\', 'f']
  else if c.toNat < 0x20 then
    '\\' :: 'u' :: '0' :: '0' :: Nat.digitChar (c.toNat / 16) :: [Nat.digitChar (c.toNat % 16)]
  else [c]

def printString (s : String) : List Char :=
  '"' :: s.toList.flatMap escapeChar ++ ['"']

mutual

def print : Doc → List Char
  | .null => "null".toList
  | .complex => "null".toList
  | .bool true => "true".toList
  | .bool false => "false".toList
  | .number n => n.text.toList
  | .text s => printString s
  | .plain s => printString s
  | .list [] => ['[', ']']
  | .list (x :: xs) => '[' :: print x ++ printItems xs
  | .record [] => ['{', '}']
  | .record ((name, x) :: es) => '{' :: printString name ++ ':' :: print x ++ printEntries es

/-- The items after the first one, up to the closing bracket. -/
def printItems : List Doc → List Char
  | [] => [']']
  | x :: xs => ',' :: print x ++ printItems xs

/-- The entries after the first one, up to the closing brace. -/
def printEntries : List (String × Doc) → List Char
  | [] => ['}']
  | (name, x) :: es => ',' :: printString name ++ ':' :: print x ++ printEntries es

end

/-- The JSON text of a document. -/
def render (d : Doc) : String := String.ofList (print d)

end AlertRouter.Json
