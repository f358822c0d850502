import AlertRouter.Regex.Pattern.Class

/-! # Patterns

The text of a regular expression: alternatives of sequences of repeated items.  There are groups,
flags for the rest of a group or for a group of its own, lazy repetitions (which accept the same
texts), classes and assertions, but no look-around and no references to groups.

Groups are kept on a stack (`Frame`), so the reader is one loop over the text.  Patterns may be
nested 250 deep. -/

namespace AlertRouter.Regex.Pattern

/-- An expression with its nesting depth. -/
structure Node where
  regex : Regex
  depth : Nat

/-- An item of a sequence; flags are items without meaning of their own. -/
inductive Item where
  | flags
  | node (n : Node)

namespace Item

def regex : Item → Regex
  | flags => .empty
  | node n => n.regex

def depth : Item → Nat
  | flags => 0
  | node n => n.depth

end Item

/-- The depth of an expression that has these parts, unless there is only one. -/
def depthOf (depths : List Nat) : Nat :=
  match depths with
  | [] => 0
  | [d] => d
  | _ => 1 + depths.foldl max 0

/-- A sequence of items, the last one first. -/
def sequence (items : List Item) : Node :=
  ⟨match items with
    | [] => .empty
    | last :: front => front.foldl (fun r item => .seq item.regex r) last.regex,
   depthOf (items.map Item.depth)⟩

/-- Alternatives, the last one first. -/
def alternatives (branches : List Node) : Node :=
  ⟨match branches with
    | [] => .empty
    | last :: front => front.foldl (fun r n => .alt n.regex r) last.regex,
   depthOf (branches.map Node.depth)⟩

/-- A group that is still open: the items of the current sequence and the sequences before it, and
the flags that hold again after the group. -/
structure Frame where
  items : List Item
  branches : List Node
  outerFlags : Flags

namespace Frame

/-- The expression in the group. -/
def value (frame : Frame) : Node :=
  if frame.branches.isEmpty then sequence frame.items
  else alternatives (sequence frame.items :: frame.branches)

def push (frame : Frame) (item : Item) : Frame := { frame with items := item :: frame.items }

def pushRegex (frame : Frame) (r : Regex) : Frame := frame.push (.node ⟨r, 0⟩)

/-- Starts the next alternative. -/
def branch (frame : Frame) : Frame :=
  { frame with items := [], branches := sequence frame.items :: frame.branches }

/-- Repeats the last item; there has to be one that is not a flag. -/
def repeatLast? (frame : Frame) (least : Nat) (most : Option Nat) : Option Frame :=
  match frame.items with
  | .node n :: rest =>
    some { frame with items := .node ⟨.loop n.regex least most, n.depth + 1⟩ :: rest }
  | _ => none

end Frame

/-! ### Flags -/

/-- Sets or clears a flag by its letter. -/
def setFlag? (f : Flags) (letter : Char) (value : Bool) : Option Flags :=
  match letter with
  | 'i' => some { f with ignoreCase := value }
  | 'm' => some { f with multiLine := value }
  | 's' => some { f with dotNewLine := value }
  | 'U' => some { f with swapGreed := value }
  | 'u' => some { f with unicode := value }
  | 'R' => some { f with crlf := value }
  | 'x' => some { f with extended := value }
  | _ => none

/-- Reads flags up to `:` or `)`, giving the new flags, whether there were any, and the rest from
that character on.  No letter and no minus sign may come twice, nor may the minus sign be last. -/
def flags? (f : Flags) (seen : List Char) : List Char → Option (Flags × Bool × List Char)
  | [] => none
  | c :: cs =>
    if c = ':' ∨ c = ')' then
      if seen.head? = some '-' then none else some (f, !seen.isEmpty, c :: cs)
    else if c ∈ seen then none
    else if c = '-' then flags? f (c :: seen) cs
    else match setFlag? f c (!seen.contains '-') with
      | some f => flags? f (c :: seen) cs
      | none => none

/-! ### Repetitions -/

/-- A decimal number of 32 bits, blanks around it not counting. -/
def decimal? (f : Flags) (cs : List Char) : Option (Nat × List Char) :=
  let cs := cs.dropWhile Unicode.isBlank
  let ds := cs.takeWhile Char.isDigit
  let rest := (cs.drop ds.length).dropWhile Unicode.isBlank
  match Codec.unsigned? 10 ds with
  | some n => if n < UInt32.size then some (n, skipSpace f.extended rest) else none
  | none => none

/-- The bounds of a counted repetition, from what follows its opening brace. -/
def bounds? (f : Flags) (cs : List Char) : Option ((Nat × Option Nat) × List Char) :=
  match decimal? f cs with
  | none => none
  | some (least, '}' :: rest) => some ((least, some least), rest)
  | some (least, ',' :: rest) => match skipSpace f.extended rest with
    | '}' :: rest => some ((least, none), rest)
    | rest => match decimal? f rest with
      | some (most, '}' :: rest) => if least ≤ most then some ((least, some most), rest) else none
      | _ => none
  | some _ => none

/-- Drops the sign of a lazy repetition. -/
def dropLazy : List Char → List Char
  | '?' :: rest => rest
  | cs => cs

/-! ### Groups -/

/-- May the character stand in the name of a group? -/
def isNameChar (isFirst : Bool) (c : Char) : Bool :=
  if isFirst then c == '_' || Unicode.isAlphabetic c
  else c == '_' || c == '.' || c == '[' || c == ']' || Unicode.isAlphanumeric c

/-- The name of a group, from what follows `<`. -/
def groupName? (cs : List Char) : Option (List Char × List Char) :=
  let name := cs.takeWhile (· != '>')
  match name, cs.drop name.length with
  | c :: more, '>' :: rest =>
    if isNameChar true c && more.all (isNameChar false) then some (name, rest) else none
  | _, _ => none

/-- What follows an opening parenthesis. -/
inductive Opening where
  | named (name : List Char)
  | plain
  | withFlags (f : Flags)
  | setFlags (f : Flags)

def opening? (f : Flags) (cs : List Char) : Option (Opening × List Char) :=
  match skipSpace f.extended cs with
  | '?' :: 'P' :: '<' :: rest => (groupName? rest).map fun (name, rest) => (.named name, rest)
  | '?' :: '<' :: '=' :: _ => none
  | '?' :: '<' :: '!' :: _ => none
  | '?' :: '<' :: rest => (groupName? rest).map fun (name, rest) => (.named name, rest)
  | '?' :: rest => match flags? f [] rest with
    | some (f, _, ':' :: rest) => some (.withFlags f, rest)
    | some (f, true, ')' :: rest) => some (.setFlags f, rest)
    | _ => none
  | rest => some (.plain, rest)

/-! ### The loop -/

/-- The state of the reader: the flags in force, the innermost group, the groups around it, and the
names of groups so far. -/
structure State where
  flags : Flags
  frame : Frame
  outer : List Frame
  names : List (List Char)

def State.initial : State := ⟨.initial, ⟨[], [], .initial⟩, [], []⟩

namespace State

def update (s : State) (frame : Frame) : State := { s with frame := frame }

def pushRegex (s : State) (r : Regex) : State := s.update (s.frame.pushRegex r)

/-- Opens a group with flags of its own. -/
def openGroup (s : State) (f : Flags) : State :=
  { s with flags := f, frame := ⟨[], [], s.flags⟩, outer := s.frame :: s.outer }

/-- Closes the innermost group. -/
def closeGroup? (s : State) : Option State :=
  match s.outer with
  | [] => none
  | parent :: outer =>
    let n := s.frame.value
    some { s with
      flags := s.frame.outerFlags
      frame := parent.push (.node ⟨n.regex, n.depth + 1⟩)
      outer := outer }

end State

/-- Any character, or any but the line ends. -/
def dot? (f : Flags) : Option Regex :=
  if !f.unicode then none
  else if f.dotNewLine then some (.chars .all)
  else if f.crlf then some (.chars (.compl (.union (.single '\r') (.single '\n'))))
  else some (.chars (.compl (.single '\n')))

/-- The expression of an escape or a plain character. -/
def primitive (f : Flags) : Primitive → Regex
  | .literal c => .chars (folded f (.single c))
  | .class s => .chars s
  | .assertion l => .look l

/-- One step of the reader: everything that starts with the character `c`. -/
def advance? (s : State) (c : Char) (cs : List Char) : Option (State × List Char) :=
  let f := s.flags
  let repeated := fun least most rest =>
    (s.frame.repeatLast? least most).map fun frame => (s.update frame, dropLazy rest)
  match c with
  | '(' => match opening? f cs with
    | none => none
    | some (.named name, rest) =>
      if name ∈ s.names then none
      else some ({ s.openGroup f with names := name :: s.names }, rest)
    | some (.plain, rest) => some (s.openGroup f, rest)
    | some (.withFlags f, rest) => some (s.openGroup f, rest)
    | some (.setFlags f, rest) => some ({ s with flags := f, frame := s.frame.push .flags }, rest)
  | ')' => s.closeGroup?.map (·, cs)
  | '|' => some (s.update s.frame.branch, cs)
  | '[' => (class? f cs).map fun (set, rest) =>
      (s.update (s.frame.push (.node ⟨.chars set, 1⟩)), rest)
  | '?' => repeated 0 (some 1) cs
  | '*' => repeated 0 none cs
  | '+' => repeated 1 none cs
  | '{' => (bounds? f cs).bind fun ((least, most), rest) =>
      repeated least most (skipSpace f.extended rest)
  | '.' => (dot? f).map fun r => (s.pushRegex r, cs)
  | '^' =>
    some (s.pushRegex (.look (if f.multiLine then .lineStart f.crlf else .start)), cs)
  | '$' =>
    some (s.pushRegex (.look (if f.multiLine then .lineStop f.crlf else .stop)), cs)
  | '\\' => (escape? f cs).map fun (p, rest) => (s.pushRegex (primitive f p), rest)
  | c => some (s.pushRegex (primitive f (.literal c)), cs)

/-- Reads to the end of the pattern; `fuel` bounds the number of items. -/
def readFrom : Nat → State → List Char → Option State
  | 0, _, _ => none
  | fuel + 1, s, cs => match skipSpace s.flags.extended cs with
    | [] => some s
    | c :: cs => match advance? s c cs with
      | some (s, cs) => readFrom fuel s cs
      | none => none

/-- How deep a pattern may be nested. -/
def maxDepth : Nat := 250

/-- The expression of a pattern; `none` if the text is no pattern. -/
def parse? (cs : List Char) : Option Regex :=
  match readFrom (cs.length + 1) .initial cs with
  | some s =>
    let n := s.frame.value
    if s.outer.isEmpty ∧ n.depth ≤ maxDepth then some n.regex else none
  | none => none

end AlertRouter.Regex.Pattern

namespace AlertRouter.Regex

/-- The expression of a pattern; `none` if the text is no pattern. -/
def parse? (pattern : String) : Option Regex := Pattern.parse? pattern.toList

/-- The expression that a pattern denotes between the start and the end of the text. -/
def anchored? (pattern : String) : Option Regex :=
  Pattern.parse? ("^(?:".toList ++ pattern.toList ++ ")$".toList)

end AlertRouter.Regex
