import AlertRouter.Text.Utf8
import AlertRouter.Yaml.Cursor
import AlertRouter.Yaml.Token

/-! # Tags, anchors and directives in YAML texts -/

namespace AlertRouter.Yaml

/-! ### Tags -/

/-- Characters that may stand in a tag, `verbatim` ones allowing more of them. -/
def isTagChar (verbatim : Bool) (c : Char) : Bool :=
  isWordChar c || ";/?:@&=+$.%!~*'()".toList.contains c ||
    (verbatim && (c == ',' || c == '[' || c == ']'))

/-- The bytes of escapes one after the other. -/
def escapedBytes : Nat → List Char → List UInt8 × List Char
  | 0, cs => ([], cs)
  | fuel + 1, cs => match cs with
    | '%' :: a :: b :: rest => match Codec.unsigned? 16 [a, b] with
      | some n =>
        let (bytes, rest) := escapedBytes fuel rest
        (n.toUInt8 :: bytes, rest)
      | none => ([], cs)
    | _ => ([], cs)

/-- Replaces the escapes in a tag, which have to be complete characters. -/
def unescapeTag? : Nat → List Char → Option (List Char)
  | 0, _ => some []
  | _, [] => some []
  | fuel + 1, '%' :: cs =>
    let (bytes, rest) := escapedBytes (cs.length + 1) ('%' :: cs)
    if bytes.isEmpty then none
    else match Utf8.decode? bytes, unescapeTag? fuel rest with
      | some text, some rest => some (text ++ rest)
      | _, _ => none
  | fuel + 1, c :: cs => (unescapeTag? fuel cs).map (c :: ·)

/-- Reads the characters of a tag. -/
def tagText? (verbatim : Bool) (c : Cursor) : Option (List Char × Cursor) :=
  let (cs, c) := c.takeWhile (isTagChar verbatim)
  (unescapeTag? (cs.length + 1) cs).map fun cs => (cs, c)

/-- Reads a handle: an exclamation mark, perhaps with a word and another exclamation mark. -/
def handle? (c : Cursor) : Option (List Char × Cursor) :=
  if c.isAt '!' then
    let (word, c) := (c.skip 1).takeWhile isWordChar
    if c.isAt '!' then some ('!' :: word ++ ['!'], c.skip 1) else some ('!' :: word, c)
  else none

/-- Reads a tag. -/
def tag? (inFlow : Bool) (c : Cursor) : Option (Token × Cursor) :=
  let ended (t : Token × Cursor) : Option (Token × Cursor) :=
    if atBlank t.2.rest || (inFlow && t.2.isAt ',') then some t else none
  if (c.skip 1).isAt '<' then
    match tagText? true (c.skip 2) with
    | some (text, c) =>
      if !text.isEmpty && c.isAt '>' then ended (.tag "" (String.ofList text), c.skip 1) else none
    | none => none
  else match handle? c with
    | none => none
    | some (handle, c) => match tagText? false c with
      | none => none
      | some (text, c) =>
        if handle.length > 1 && handle.getLast? == some '!' then
          if text.isEmpty then none
          else ended (.tag (String.ofList handle) (String.ofList text), c)
        else
          let suffix := handle.drop 1 ++ text
          if suffix.isEmpty then ended (.tag "" "!", c)
          else ended (.tag "!" (String.ofList suffix), c)

/-! ### Anchors -/

/-- Reads the name of an anchor after its mark. -/
def anchorName? (c : Cursor) : Option (String × Cursor) :=
  let (name, c) := (c.skip 1).takeWhile isWordChar
  if !name.isEmpty && (atBlank c.rest || c.peek?.any "?:,]\x7d%@\x60".toList.contains) then
    some (String.ofList name, c)
  else none

/-! ### Directives -/

/-- Reads a number of at most nine digits. -/
def versionNumber? (c : Cursor) : Option (Nat × Cursor) :=
  let (ds, c) := c.takeWhile Char.isDigit
  if ds.length ≤ 9 then (Codec.unsigned? 10 ds).map fun n => (n, c) else none

/-- Reads what follows the name of a directive. -/
def directiveBody? (name : String) (c : Cursor) : Option (Token × Cursor) :=
  let c := c.skipWhile isGap
  if name = "YAML" then
    match versionNumber? c with
    | some (major, c) =>
      if c.isAt '.' then (versionNumber? (c.skip 1)).map fun (minor, c) => (.version major minor, c)
      else none
    | none => none
  else if name = "TAG" then
    match handle? c with
    | some (handle, c) =>
      if (handle == ['!'] || handle.getLast? == some '!') && c.peek?.any isGap then
        match tagText? true (c.skipWhile isGap) with
        | some (text, c) =>
          if !text.isEmpty && atBlank c.rest then
            some (.tagHandle (String.ofList handle) (String.ofList text), c)
          else none
        | none => none
      else none
    | none => none
  else none

/-- Reads a directive with the rest of its line. -/
def directive? (c : Cursor) : Option (Token × Cursor) :=
  let (name, c) := (c.skip 1).takeWhile isWordChar
  if atBlank c.rest then
    match directiveBody? (String.ofList name) c with
    | some (t, c) =>
      let c := (c.skipWhile isGap).skipComment
      if c.rest.isEmpty || c.peek?.any isBreak then some (t, c.skipLine.2) else none
    | none => none
  else none

end AlertRouter.Yaml
