import AlertRouter.Doc.Codec

/-! # Nested types in documents

A type whose values contain values of the same type is read and written level by level, down to the
depth of the document or of the value. -/

namespace AlertRouter

namespace Doc

mutual

/-- The number of levels of a document. -/
def depth : Doc → Nat
  | list items => depthItems items + 1
  | record fields => depthFields fields + 1
  | _ => 1

/-- The greatest number of levels of some documents. -/
def depthItems : List Doc → Nat
  | [] => 0
  | d :: ds => max (depth d) (depthItems ds)

/-- The greatest number of levels of the values of some fields. -/
def depthFields : List (String × Doc) → Nat
  | [] => 0
  | (_, d) :: es => max (depth d) (depthFields es)

end

end Doc

namespace Codec

variable {α : Type}

/-- The codec for values of at most `n` levels, `step` adding one level. -/
def level (step : Codec α → Codec α) : Nat → Codec α
  | 0 => ⟨fun d => unexpected d "nothing", fun _ => .null⟩
  | n + 1 => step (level step n)

/-- The codec for values of any depth. -/
def nested (step : Codec α → Codec α) (depth : α → Nat) : Codec α where
  read d := (level step d.depth).read d
  write x := (level step (depth x)).write x

end Codec

end AlertRouter
