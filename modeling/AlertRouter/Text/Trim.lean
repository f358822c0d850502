import AlertRouter.Unicode.Property

/-! # Trimming blanks

Texts are handled as lists of characters; blanks are the white space of the standard. -/

namespace AlertRouter.Text

open Unicode (isBlank)

/-- Drops the blanks in front. -/
def trimStart (cs : List Char) : List Char := cs.dropWhile isBlank

/-- Drops the blanks at the end. -/
def trimEnd (cs : List Char) : List Char := (cs.reverse.dropWhile isBlank).reverse

/-- Drops the blanks at both ends. -/
def trim (cs : List Char) : List Char := trimEnd (trimStart cs)

end AlertRouter.Text
