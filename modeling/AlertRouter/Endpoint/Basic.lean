import AlertRouter.Endpoint.Email
import AlertRouter.Endpoint.Opsgenie
import AlertRouter.Endpoint.Pagerduty
import AlertRouter.Endpoint.Pushover
import AlertRouter.Endpoint.Slack
import AlertRouter.Endpoint.Sns
import AlertRouter.Endpoint.Victorops
import AlertRouter.Endpoint.Webhook
import AlertRouter.Endpoint.Wechat

/-! # Endpoints

An endpoint is where notifications are sent, of any kind.  Before it is used, the settings that it
lacks are filled in from the global ones (`filled`).  Then required settings may be missing, and the
settings may contradict each other (`check`). -/

namespace AlertRouter

/-- The settings of one integration. -/
inductive Endpoint where
  | webhook (c : Webhook)
  | email (c : Email)
  | pagerduty (c : Pagerduty)
  | opsgenie (c : Opsgenie)
  | wechat (c : Wechat)
  | slack (c : Slack)
  | victorops (c : Victorops)
  | pushover (c : Pushover)
  | sns (c : Sns)
deriving DecidableEq, Repr

namespace Endpoint

def kind : Endpoint → Kind
  | webhook _ => .webhook
  | email _ => .email
  | pagerduty _ => .pagerduty
  | opsgenie _ => .opsgenie
  | wechat _ => .wechat
  | slack _ => .slack
  | victorops _ => .victorops
  | pushover _ => .pushover
  | sns _ => .sns

/-- Are resolved alerts sent as well? -/
def sendsResolved : Endpoint → Bool
  | webhook c => c.sendsResolved
  | email c => c.sendsResolved
  | pagerduty c => c.sendsResolved
  | opsgenie c => c.sendsResolved
  | wechat c => c.sendsResolved
  | slack c => c.sendsResolved
  | victorops c => c.sendsResolved
  | pushover c => c.sendsResolved
  | sns c => c.sendsResolved

/-- The endpoint with the global settings where it has none of its own. -/
def filled (g : GlobalConfig) : Endpoint → Endpoint
  | webhook c => webhook (c.filled g)
  | email c => email (c.filled g)
  | pagerduty c => pagerduty (c.filled g)
  | opsgenie c => opsgenie (c.filled g)
  | wechat c => wechat (c.filled g)
  | slack c => slack (c.filled g)
  | victorops c => victorops (c.filled g)
  | pushover c => pushover (c.filled g)
  | sns c => sns (c.filled g)

/-- The required settings that a filled endpoint lacks. -/
def missing : Endpoint → List String
  | email c => c.missing
  | pagerduty c => c.missing
  | opsgenie c => c.missing
  | wechat c => c.missing
  | slack c => c.missing
  | victorops c => c.missing
  | webhook _ | pushover _ | sns _ => []

/-- What is wrong with the settings as they are. -/
def fault? : Endpoint → Option EndpointFault
  | webhook c => c.fault?
  | email c => c.fault?
  | pagerduty c => c.fault?
  | opsgenie c => c.fault?
  | slack c => c.fault?
  | victorops c => c.fault?
  | pushover c => c.fault?
  | sns c => c.fault?
  | wechat _ => none

/-- Are all required settings there? -/
def checkComplete (e : Endpoint) : Except AlertError Unit :=
  match e.missing with
  | setting :: _ => .error (.missingSetting e.kind setting)
  | [] => .ok ()

/-- Do the settings make sense? -/
def check (e : Endpoint) : Except AlertError Unit :=
  match e.fault? with
  | some fault => .error (.badInput (.endpoint e.kind fault))
  | none => .ok ()

/-- The text of a URL that may be absent. -/
def urlText (u : Option Url) : String := (u.map Url.text).getD ""

/-- Where the notifications go, for people to read. -/
def target : Endpoint → String
  | webhook c => c.url.text
  | email c => c.recipient
  | pagerduty c => urlText c.url
  | opsgenie c => urlText c.apiUrl
  | wechat c => c.corpId ++ "/" ++ c.toUser
  | slack c => c.channel
  | victorops c => c.routingKey
  | pushover _ => "pushover"
  | sns c => c.targets.headD ""

end Endpoint

end AlertRouter
