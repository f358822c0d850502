import AlertRouter.Yaml.Node
import AlertRouter.Yaml.Token.Lexer

/-! # Reading YAML

A text with a single document is read as a `Doc`.  An alias is replaced by the node that its name
was last given to; one that stands within that node is `Doc.complex`, and so are maps with names
that are no scalars and what is nested too deeply, so that nothing can be read from them. -/

namespace AlertRouter.Yaml

/-- What the names of nodes stand for, the latest one first. -/
abbrev Anchors := List (String × Doc)

/-- The document of a scalar.  A scalar of a stated type is not taken for an absent value. -/
def scalarDoc (marks : Marks) (plain : Bool) (text : String) : Doc :=
  match plain, marks.tag with
  | false, _ => .text text
  | true, none => .plain text
  | true, some tag =>
    if tag = "tag:yaml.org,2002:null" || !Codec.plainIsNull text then .plain text
    else if text = "" && tag = "tag:yaml.org,2002:map" then .record []
    else if text = "" && tag = "tag:yaml.org,2002:seq" then .list []
    else .text text

/-- The text of a scalar. -/
def scalarText? : Doc → Option String
  | .text s => some s
  | .plain s => some s
  | _ => none

/-- A map, if all its names are scalars. -/
def recordOf (entries : List (Doc × Doc)) : Doc :=
  match entries.mapM fun e => (scalarText? e.1).map fun name => (name, e.2) with
  | some fields => .record fields
  | none => .complex

/-- Gives a document a name, if there is one. -/
def Anchors.name (anchors : Anchors) (anchor : Option String) (d : Doc) : Anchors :=
  match anchor with
  | some name => (name, d) :: anchors
  | none => anchors

/-- Before a list or a map is read, its name stands for `Doc.complex`. -/
def Anchors.start (anchors : Anchors) (anchor : Option String) : Anchors :=
  anchors.name anchor .complex

/-- Names the document of a list or a map that started after the names in `outer`; `inner` are the
names after it has been read. -/
def Anchors.finish (outer inner : Anchors) (anchor : Option String) (d : Doc) : Anchors :=
  inner.take (inner.length - (outer.start anchor).length) ++ outer.name anchor d

mutual

/-- The document of a node, given what the names before it stand for. -/
def Node.toDoc? (anchors : Anchors) : Node → Option (Doc × Anchors)
  | .alias name => (anchors.lookup name).map fun d => (d, anchors)
  | .scalar marks plain text =>
    let d := scalarDoc marks plain text
    some (d, anchors.name marks.anchor d)
  | .list marks items => (docs? (anchors.start marks.anchor) items).map fun (ds, inner) =>
    (.list ds, anchors.finish inner marks.anchor (.list ds))
  | .map marks entries => (entryDocs? (anchors.start marks.anchor) entries).map fun (es, inner) =>
    (recordOf es, anchors.finish inner marks.anchor (recordOf es))

/-- The documents of nodes that follow one another. -/
def docs? (anchors : Anchors) : List Node → Option (List Doc × Anchors)
  | [] => some ([], anchors)
  | n :: ns => (n.toDoc? anchors).bind fun (d, anchors) =>
    (docs? anchors ns).map fun (ds, anchors) => (d :: ds, anchors)

/-- The documents of the entries of a map. -/
def entryDocs? (anchors : Anchors) : List (Node × Node) → Option (List (Doc × Doc) × Anchors)
  | [] => some ([], anchors)
  | (k, v) :: es => (k.toDoc? anchors).bind fun (k, anchors) =>
    (v.toDoc? anchors).bind fun (v, anchors) =>
      (entryDocs? anchors es).map fun (es, anchors) => ((k, v) :: es, anchors)

end

/-- The greatest number of lists and maps within one another that are read. -/
def maxDepth : Nat := 128

mutual

/-- The document without what is in more than `depth` lists and maps. -/
def prune (depth : Nat) : Doc → Doc
  | .list items => match depth with
    | 0 => .complex
    | depth + 1 => .list (pruneItems depth items)
  | .record fields => match depth with
    | 0 => .complex
    | depth + 1 => .record (pruneFields depth fields)
  | d => d

/-- The items of a list, pruned. -/
def pruneItems (depth : Nat) : List Doc → List Doc
  | [] => []
  | d :: ds => prune depth d :: pruneItems depth ds

/-- The fields of a record, pruned. -/
def pruneFields (depth : Nat) : List (String × Doc) → List (String × Doc)
  | [] => []
  | (name, d) :: es => (name, prune depth d) :: pruneFields depth es

end

/-- The document in a text; `none` if the text is no YAML or has not exactly one document. -/
def read? (s : String) : Option Doc :=
  ((tokens? s).bind Node.ofTokens?).bind fun n =>
    (n.toDoc? []).map fun (d, _) => prune maxDepth d

end AlertRouter.Yaml
