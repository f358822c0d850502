import AlertRouter.Error

/-! # Stores out of reach

A store may be out of reach for a while; then it keeps its content, and everything that is asked of
it fails with the reason. -/

namespace AlertRouter

/-- A store and, while it is out of reach, the reason. -/
structure Remote (σ : Type) where
  store : σ
  outage : Option String
deriving DecidableEq, Repr

namespace Remote

variable {σ α : Type}

/-- A store within reach. -/
def up (s : σ) : Remote σ := ⟨s, none⟩

instance [Inhabited σ] : Inhabited (Remote σ) := ⟨up default⟩

/-- The store, if it is within reach. -/
def reach (r : Remote σ) : Except AlertError σ :=
  match r.outage with
  | none => .ok r.store
  | some reason => .error (.storage reason)

/-- Asks the store something. -/
def ask (r : Remote σ) (f : σ → Except AlertError α) : Except AlertError α := r.reach.bind f

/-- Changes the store; a change that fails has no effect. -/
def change (r : Remote σ) (f : σ → Except AlertError (α × σ)) : Except AlertError α × Remote σ :=
  match r.ask f with
  | .ok (x, s) => (.ok x, { r with store := s })
  | .error e => (.error e, r)

end Remote

end AlertRouter
