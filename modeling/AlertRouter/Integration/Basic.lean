import AlertRouter.Endpoint.Basic

/-! # Integrations

An integration is one endpoint of a receiver, ready to send notifications.  It is known by its
receiver, its kind and its number among the endpoints of that kind (`Integration.text`). -/

namespace AlertRouter

/-- What sends notifications: the service, the recipient, and the address of this program that the
notifications link to. -/
structure Notifier where
  kind : Kind
  target : String
  link : Option Url
deriving DecidableEq, Repr

/-- A notifier as part of a receiver. -/
structure Integration where
  receiver : String
  kind : Kind
  index : Nat
  sendsResolved : Bool
  notifier : Notifier
deriving DecidableEq, Repr

namespace Integration

/-- The name of an integration. -/
def text (i : Integration) : String :=
  i.receiver ++ "/" ++ i.kind.name ++ "[" ++ toString i.index ++ "]"

end Integration

end AlertRouter
