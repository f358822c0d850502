import AlertRouter.Integration.Basic
import AlertRouter.Receiver.Basic

/-! # Building integrations

For each kind there may be a builder that makes notifiers from endpoints.  The integrations of a
receiver are built all or none: the error lists everything that could not be built. -/

namespace AlertRouter

/-- Makes a notifier from an endpoint and the address to link to. -/
abbrev Builder := Endpoint → Option Url → Except AlertError Notifier

namespace Builder

/-- The builder that accepts every endpoint without faults. -/
def standard : Builder := fun e link => e.check.map fun _ => ⟨e.kind, e.target, link⟩

/-- The builder of a service that is not available. -/
def unavailable : Builder := fun e _ =>
  .error (.internal (.other (e.kind.name ++ " transport unavailable")))

end Builder

/-- The builders by kind. -/
structure Registry where
  builder? : Kind → Option Builder

namespace Registry

/-- A standard builder for each kind. -/
def standard : Registry := ⟨fun _ => some .standard⟩

instance : Inhabited Registry := ⟨standard⟩

/-- The registry with another builder, or none, for some kinds. -/
def replace (r : Registry) (kinds : List Kind) (builder : Option Builder) : Registry :=
  ⟨fun k => if k ∈ kinds then builder else r.builder? k⟩

/-- Builds one notifier. -/
def notifier (r : Registry) (link : Option Url) (e : Endpoint) : Except AlertError Notifier :=
  match r.builder? e.kind with
  | some build => build e link
  | none => .error (.internal (.noBuilder e.kind))

/-- Endpoints with their numbers: how many of the same kind come earlier, `seen` being the kinds of
those before the first one. -/
def numbered (seen : List Kind) : List Endpoint → List (Nat × Endpoint)
  | [] => []
  | e :: es => (seen.count e.kind, e) :: numbered (e.kind :: seen) es

/-- Builds one integration. -/
def integration (r : Registry) (link : Option Url) (receiver : String) (e : Nat × Endpoint) :
    Except AlertError Integration :=
  (r.notifier link e.2).map fun notifier =>
    ⟨receiver, e.2.kind, e.1, e.2.sendsResolved, notifier⟩

/-- What went wrong, if anything. -/
def failure? {α : Type} : Except AlertError α → Option AlertError
  | .error e => some e
  | .ok _ => none

/-- Builds all integrations of a receiver, or none of them. -/
def build (r : Registry) (link : Option Url) (receiver : Receiver) :
    Except AlertError (List Integration) :=
  let built := (numbered [] receiver.endpoints).map (r.integration link receiver.name)
  match built.filterMap failure? with
  | [] => .ok (built.filterMap Except.toOption)
  | failures => .error (.unbuildable receiver.name failures)

end Registry

end AlertRouter
