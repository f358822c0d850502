import AlertRouter.Endpoint.Basic

/-! # Receivers

A receiver is a name for endpoints of any kinds.  Its endpoints are listed kind by kind. -/

namespace AlertRouter

structure Receiver where
  name : String
  webhooks : List Webhook
  emails : List Email
  pagerduties : List Pagerduty
  opsgenies : List Opsgenie
  wechats : List Wechat
  slacks : List Slack
  victoropses : List Victorops
  pushovers : List Pushover
  snses : List Sns
deriving DecidableEq, Repr

namespace Receiver

/-- The receiver without endpoints. -/
def named (name : String) : Receiver := ⟨name, [], [], [], [], [], [], [], [], []⟩

instance : Inhabited Receiver := ⟨named ""⟩

/-- A list of endpoints of one kind, left out when empty. -/
def listField {α : Type} (name : String) (s : Schema α) (get : Receiver → List α)
    (set : List α → Receiver → Receiver) : Field Receiver :=
  .omitting List.isEmpty name (.list s.codec) get set

def schema : Schema Receiver where
  name := "Receiver"
  blank := named ""
  fields := [
    .must "name" .text (·.name) fun v r => { r with name := v },
    listField "webhook_configs" Webhook.schema (·.webhooks) fun v r => { r with webhooks := v },
    listField "email_configs" Email.schema (·.emails) fun v r => { r with emails := v },
    listField "pagerduty_configs" Pagerduty.schema (·.pagerduties)
      fun v r => { r with pagerduties := v },
    listField "opsgenie_configs" Opsgenie.schema (·.opsgenies) fun v r => { r with opsgenies := v },
    listField "wechat_configs" Wechat.schema (·.wechats) fun v r => { r with wechats := v },
    listField "slack_configs" Slack.schema (·.slacks) fun v r => { r with slacks := v },
    listField "victorops_configs" Victorops.schema (·.victoropses)
      fun v r => { r with victoropses := v },
    listField "pushover_configs" Pushover.schema (·.pushovers) fun v r => { r with pushovers := v },
    listField "sns_configs" Sns.schema (·.snses) fun v r => { r with snses := v }]

/-- All endpoints, kind by kind. -/
def endpoints (r : Receiver) : List Endpoint :=
  r.webhooks.map .webhook ++ r.emails.map .email ++ r.pagerduties.map .pagerduty ++
    r.opsgenies.map .opsgenie ++ r.wechats.map .wechat ++ r.slacks.map .slack ++
    r.victoropses.map .victorops ++ r.pushovers.map .pushover ++ r.snses.map .sns

/-- The receiver with the global settings wherever its endpoints have none of their own. -/
def filled (g : GlobalConfig) (r : Receiver) : Receiver where
  name := r.name
  webhooks := r.webhooks.map (·.filled g)
  emails := r.emails.map (·.filled g)
  pagerduties := r.pagerduties.map (·.filled g)
  opsgenies := r.opsgenies.map (·.filled g)
  wechats := r.wechats.map (·.filled g)
  slacks := r.slacks.map (·.filled g)
  victoropses := r.victoropses.map (·.filled g)
  pushovers := r.pushovers.map (·.filled g)
  snses := r.snses.map (·.filled g)

theorem endpoints_filled (g : GlobalConfig) (r : Receiver) :
    (r.filled g).endpoints = r.endpoints.map (·.filled g) := by
  simp [endpoints, filled, Endpoint.filled, Function.comp_def]

/-- Fills the receiver, all of it whatever its endpoints are like; gives the error of the first
endpoint that cannot be used, and the filled receiver. -/
def fill (g : GlobalConfig) (r : Receiver) : Except AlertError Unit × Receiver :=
  ((r.filled g).endpoints.forM fun e => e.checkComplete.bind fun _ => e.check, r.filled g)

/-- The receiver as it can be used: filled, complete and without faults. -/
def resolve (g : GlobalConfig) (r : Receiver) : Except AlertError Receiver :=
  (r.fill g).1.map fun _ => (r.fill g).2

end Receiver

end AlertRouter
