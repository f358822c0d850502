import AlertRouter.Unicode.Property

/-! # Quoted text

`quoted` shows a string between double quotes so that nothing in it is lost to the eye.  Quotes
and backslashes get a backslash, line ends, tabs and NUL their short escapes, and every other
character that cannot be printed or that would attach to its neighbour is written by its code
point. -/

namespace AlertRouter.Text

/-- The escape of a character by its code point, in lower case hexadecimal. -/
def codePointEscape (c : Char) : List Char :=
  '\\' :: 'u' :: '{' :: Nat.toDigits 16 c.toNat ++ ['}']

/-- How a character is written between the quotes. -/
def quoteChar (c : Char) : List Char :=
  if c = '"' then ['\\', '"']
  else if c = '\\' then ['\\', '\\']
  else if c = '\n' then ['\\', 'n']
  else if c = '\r' then ['\\', 'r']
  else if c = '\t' then ['\\', 't']
  else if c = '\x00' then ['\\', '0']
  else if 0x20 ≤ c.toNat ∧ c.toNat ≤ 0x7E then [c]
  else if Unicode.isGraphemeExtender c || !Unicode.isPrintable c then codePointEscape c
  else [c]

/-- The string between double quotes, with its escapes. -/
def quoted (s : String) : String :=
  String.ofList ('"' :: s.toList.flatMap quoteChar ++ ['"'])

end AlertRouter.Text
