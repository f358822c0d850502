import AlertRouter.Yaml.Token

/-! # Nodes

What the tokens of a text say, before aliases are replaced by what they stand for: a tree of
scalars, lists and maps (`Node`).  A node that is left out where one could stand is an empty
scalar. -/

namespace AlertRouter.Yaml

/-- What may stand before a node: a name to refer to it by, and the name of its type. -/
structure Marks where
  anchor : Option String
  tag : Option String
deriving DecidableEq, Repr

namespace Marks

def none : Marks := ⟨.none, .none⟩

def isNone (m : Marks) : Bool := m.anchor.isNone && m.tag.isNone

end Marks

/-- A part of a text; a scalar is `plain` if it was not quoted. -/
inductive Node where
  | alias (name : String)
  | scalar (marks : Marks) (plain : Bool) (text : String)
  | list (marks : Marks) (items : List Node)
  | map (marks : Marks) (entries : List (Node × Node))
deriving Repr

namespace Node

/-- The node that stands for a missing one. -/
def empty : Node := scalar .none true ""

end Node

/-! ### Tags -/

/-- The beginnings of tags, by their handles. -/
abbrev Handles := List (String × String)

/-- The handles that need no declaration. -/
def standardHandles : Handles := [("!", "!"), ("!!", "tag:yaml.org,2002:")]

/-- The full name of a tag. -/
def fullTag? (handles : Handles) (handle suffix : String) : Option String :=
  if handle = "" then some suffix else (handles.lookup handle).map (· ++ suffix)

/-- Reads an anchor and a tag, in either order, each at most once.  The tag `!` says nothing. -/
def marks? (handles : Handles) : List Token → Option (Marks × List Token)
  | .anchor a :: .tag h s :: ts => (tagMark? h s).map fun t => (⟨some a, t⟩, ts)
  | .tag h s :: .anchor a :: ts => (tagMark? h s).map fun t => (⟨some a, t⟩, ts)
  | .anchor a :: ts => some (⟨some a, none⟩, ts)
  | .tag h s :: ts => (tagMark? h s).map fun t => (⟨none, t⟩, ts)
  | ts => some (.none, ts)
where
  tagMark? (handle suffix : String) : Option (Option String) :=
    (fullTag? handles handle suffix).map fun t => if t = "!" then none else some t

/-! ### From tokens to nodes -/

/-- Where a node stands: as a document or an item of a block list, as a name or value in a block
map, where a list need not be indented, or within brackets. -/
inductive Place where
  | item
  | entry
  | flow
deriving DecidableEq, Repr

mutual

/-- Reads a node.  The first argument bounds the number of steps. -/
def node? (handles : Handles) : Nat → Place → List Token → Option (Node × List Token)
  | 0, _, _ => none
  | _ + 1, _, .alias name :: ts => some (.alias name, ts)
  | fuel + 1, place, ts => (marks? handles ts).bind fun (marks, ts) =>
    match ts, place with
    | .scalar plain text :: ts, _ => some (.scalar marks plain text, ts)
    | .flowList :: ts, _ =>
      (flowItems? handles fuel true ts).map fun (ns, ts) => (.list marks ns, ts)
    | .flowMap :: ts, _ =>
      (flowEntries? handles fuel true ts).map fun (es, ts) => (.map marks es, ts)
    | .item :: _, .entry => (bareItems? handles fuel ts).map fun (ns, ts) => (.list marks ns, ts)
    | .blockList :: ts, .item | .blockList :: ts, .entry =>
      (blockItems? handles fuel ts).map fun (ns, ts) => (.list marks ns, ts)
    | .blockMap :: ts, .item | .blockMap :: ts, .entry =>
      (blockEntries? handles fuel ts).map fun (es, ts) => (.map marks es, ts)
    | _, _ => if marks.isNone then none else some (.scalar marks true "", ts)

/-- Reads a node, which is missing before the given tokens. -/
def nodeUnless? (handles : Handles) (stops : List Token) :
    Nat → Place → List Token → Option (Node × List Token)
  | 0, _, _ => none
  | fuel + 1, place, ts =>
    if ts.head?.any stops.contains then some (.empty, ts) else node? handles fuel place ts

/-- Reads a value with the mark before it, both of which may be missing. -/
def value? (handles : Handles) (stops : List Token) :
    Nat → Place → List Token → Option (Node × List Token)
  | 0, _, _ => none
  | fuel + 1, place, .value :: ts => nodeUnless? handles stops fuel place ts
  | _ + 1, _, ts => some (.empty, ts)

/-- Reads the items of a block list. -/
def blockItems? (handles : Handles) : Nat → List Token → Option (List Node × List Token)
  | 0, _ => none
  | _ + 1, .blockEnd :: ts => some ([], ts)
  | fuel + 1, .item :: ts =>
    (nodeUnless? handles [.item, .blockEnd] fuel .item ts).bind fun (n, ts) =>
      (blockItems? handles fuel ts).map fun (ns, ts) => (n :: ns, ts)
  | _, _ => none

/-- Reads the items of a block list that is not indented. -/
def bareItems? (handles : Handles) : Nat → List Token → Option (List Node × List Token)
  | 0, _ => none
  | fuel + 1, .item :: ts =>
    (nodeUnless? handles [.item, .key, .value, .blockEnd] fuel .item ts).bind fun (n, ts) =>
      (bareItems? handles fuel ts).map fun (ns, ts) => (n :: ns, ts)
  | _ + 1, ts => some ([], ts)

/-- Reads the entries of a block map. -/
def blockEntries? (handles : Handles) : Nat → List Token → Option (List (Node × Node) × List Token)
  | 0, _ => none
  | _ + 1, .blockEnd :: ts => some ([], ts)
  | fuel + 1, .key :: ts =>
    (nodeUnless? handles [.key, .value, .blockEnd] fuel .entry ts).bind fun (k, ts) =>
      (value? handles [.key, .value, .blockEnd] fuel .entry ts).bind fun (v, ts) =>
        (blockEntries? handles fuel ts).map fun (es, ts) => ((k, v) :: es, ts)
  | _, _ => none

/-- Reads the items of a list in brackets; all but the first follow a comma.  An item may be a map
of one entry without brackets of its own; where its name is missing, a token goes with it. -/
def flowItems? (handles : Handles) : Nat → Bool → List Token → Option (List Node × List Token)
  | 0, _, _ => none
  | _ + 1, _, .flowListEnd :: ts => some ([], ts)
  | fuel + 1, false, .comma :: ts => flowItems? handles fuel true ts
  | fuel + 1, true, .key :: ts =>
    let name := if ts.head?.any [.value, .comma, .flowListEnd].contains then
        some (.empty, ts.drop 1)
      else node? handles fuel .flow ts
    name.bind fun (k, ts) =>
      (value? handles [.comma, .flowListEnd] fuel .flow ts).bind fun (v, ts) =>
        (flowItems? handles fuel false ts).map fun (ns, ts) => (.map .none [(k, v)] :: ns, ts)
  | fuel + 1, true, ts =>
    (node? handles fuel .flow ts).bind fun (n, ts) =>
      (flowItems? handles fuel false ts).map fun (ns, ts) => (n :: ns, ts)
  | _, _, _ => none

/-- Reads the entries of a map in brackets; all but the first follow a comma. -/
def flowEntries? (handles : Handles) :
    Nat → Bool → List Token → Option (List (Node × Node) × List Token)
  | 0, _, _ => none
  | _ + 1, _, .flowMapEnd :: ts => some ([], ts)
  | fuel + 1, false, .comma :: ts => flowEntries? handles fuel true ts
  | fuel + 1, true, .key :: ts =>
    (nodeUnless? handles [.value, .comma, .flowMapEnd] fuel .flow ts).bind fun (k, ts) =>
      (value? handles [.comma, .flowMapEnd] fuel .flow ts).bind fun (v, ts) =>
        (flowEntries? handles fuel false ts).map fun (es, ts) => ((k, v) :: es, ts)
  | fuel + 1, true, ts =>
    (node? handles fuel .flow ts).bind fun (k, ts) =>
      (flowEntries? handles fuel false ts).map fun (es, ts) => ((k, .empty) :: es, ts)
  | _, _, _ => none

end

/-! ### Documents -/

/-- Reads the directives before a document, given those before; the first one that is declared for a
handle counts. -/
def directives? (version : Bool) (handles : Handles) : List Token → Option (Handles × List Token)
  | .version major minor :: ts =>
    if version || major != 1 || (minor != 1 && minor != 2) then none
    else directives? true handles ts
  | .tagHandle handle start :: ts =>
    if (handles.lookup handle).isSome then none
    else directives? version (handles ++ [(handle, start)]) ts
  | ts => some (handles ++ standardHandles, ts)

/-- Reads the node of a document that starts with a mark. -/
def markedDocument? (ts : List Token) : Option (Node × List Token) :=
  (directives? false [] ts).bind fun (handles, ts) => match ts with
    | .documentStart :: ts =>
      if ts.head?.all [.documentStart, .documentEnd].contains || ts.head?.any isDirective then
        some (.empty, ts)
      else node? handles (2 * ts.length + 2) .item ts
    | _ => none
where
  isDirective : Token → Bool
    | .version _ _ | .tagHandle _ _ => true
    | _ => false

/-- The only document that the tokens make up, which may do without marks. -/
def Node.ofTokens? (ts : List Token) : Option Node :=
  let document := match ts with
    | .version _ _ :: _ | .tagHandle _ _ :: _ | .documentStart :: _ => markedDocument? ts
    | ts => node? standardHandles (2 * ts.length + 2) .item ts
  document.bind fun (n, ts) => if ts.all (· == .documentEnd) then some n else none

end AlertRouter.Yaml
