/-! # Trees

A tree has a value at its root and a list of subtrees. -/

namespace AlertRouter

/-- A tree with values of type `α` at its nodes. -/
inductive Tree (α : Type) where
  | node (value : α) (children : List (Tree α))
deriving Repr

namespace Tree

variable {α β : Type}

def value : Tree α → α
  | node a _ => a

def children : Tree α → List (Tree α)
  | node _ ts => ts

instance [Inhabited α] : Inhabited (Tree α) := ⟨node default []⟩

/-- The tree with another value at the root. -/
def setValue (a : α) : Tree α → Tree α
  | node _ ts => node a ts

/-- The tree with other subtrees. -/
def setChildren (ts : List (Tree α)) : Tree α → Tree α
  | node a _ => node a ts

mutual

/-- The number of levels. -/
def depth : Tree α → Nat
  | node _ ts => depthAll ts + 1

/-- The greatest number of levels of some trees. -/
def depthAll : List (Tree α) → Nat
  | [] => 0
  | t :: ts => max (depth t) (depthAll ts)

end

mutual

/-- The values, each before those below it. -/
def toList : Tree α → List α
  | node a ts => a :: toListAll ts

/-- The values of some trees. -/
def toListAll : List (Tree α) → List α
  | [] => []
  | t :: ts => toList t ++ toListAll ts

end

mutual

/-- Are two trees equal? -/
def beq [DecidableEq α] : Tree α → Tree α → Bool
  | node a ts, node b us => a == b && beqAll ts us

/-- Are the trees of two lists equal? -/
def beqAll [DecidableEq α] : List (Tree α) → List (Tree α) → Bool
  | [], [] => true
  | t :: ts, u :: us => beq t u && beqAll ts us
  | _, _ => false

end

mutual

theorem beq_iff [DecidableEq α] : ∀ t u : Tree α, beq t u = true ↔ t = u
  | node a ts, node b us => by simp [beq, beqAll_iff ts us]

theorem beqAll_iff [DecidableEq α] : ∀ ts us : List (Tree α), beqAll ts us = true ↔ ts = us
  | [], [] => by simp [beqAll]
  | [], _ :: _ => by simp [beqAll]
  | _ :: _, [] => by simp [beqAll]
  | t :: ts, u :: us => by simp [beqAll, beq_iff t u, beqAll_iff ts us]

end

instance [DecidableEq α] : DecidableEq (Tree α) := fun t u =>
  decidable_of_iff (beq t u = true) (beq_iff t u)

end Tree

end AlertRouter
