import AlertRouter.Doc.Codec

/-! # Kinds of integrations

The services that notifications can be sent to. -/

namespace AlertRouter

/-- A kind of integration, in the order in which a receiver lists its integrations. -/
inductive Kind where
  | webhook
  | email
  | pagerduty
  | opsgenie
  | wechat
  | slack
  | victorops
  | pushover
  | sns
deriving DecidableEq, Repr

namespace Kind

/-- All kinds in order. -/
def all : List Kind :=
  [.webhook, .email, .pagerduty, .opsgenie, .wechat, .slack, .victorops, .pushover, .sns]

def name : Kind → String
  | webhook => "webhook"
  | email => "email"
  | pagerduty => "pagerduty"
  | opsgenie => "opsgenie"
  | wechat => "wechat"
  | slack => "slack"
  | victorops => "victorops"
  | pushover => "pushover"
  | sns => "sns"

def codec : Codec Kind := .variant (all.map fun k => (k.name, k)) name

end Kind

end AlertRouter
