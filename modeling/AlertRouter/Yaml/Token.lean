/-! # Tokens of YAML

The marks and scalars of a text, with the structure that indentation gives made explicit: a block
list or map starts and ends with tokens of its own. -/

namespace AlertRouter.Yaml

/-- A token.  A scalar is `plain` if it stands without quotes, on lines of other things. -/
inductive Token where
  | version (major minor : Nat)
  | tagHandle (handle : String) (start : String)
  | documentStart
  | documentEnd
  | blockList
  | blockMap
  | blockEnd
  | flowList
  | flowListEnd
  | flowMap
  | flowMapEnd
  | item
  | comma
  | key
  | value
  | alias (name : String)
  | anchor (name : String)
  | tag (handle suffix : String)
  | scalar (plain : Bool) (text : String)
deriving DecidableEq, Repr

end AlertRouter.Yaml
