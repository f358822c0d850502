import AlertRouter.Config.Global

/-! # Webhooks -/

namespace AlertRouter

/-- A plain HTTP endpoint. -/
structure Webhook where
  sendsResolved : Bool
  httpClient : Option HttpClient
  url : Url
  maxAlerts : Nat
deriving DecidableEq, Repr

namespace Webhook

def schema : Schema Webhook where
  name := "WebhookConfig"
  blank := ⟨true, none, default, 0⟩
  fields := [
    .may "send_resolved" .flag (·.sendsResolved) fun v c => { c with sendsResolved := v },
    .maybe "http_config" HttpClient.schema.codec (·.httpClient)
      fun v c => { c with httpClient := v },
    .must "url" Url.codec (·.url) fun v c => { c with url := v },
    .may "max_alerts" .natural (·.maxAlerts) fun v c => { c with maxAlerts := v }]

/-- The webhook with the global settings where it has none of its own. -/
def filled (g : GlobalConfig) (c : Webhook) : Webhook :=
  { c with httpClient := some (c.httpClient.getD g.httpClient) }

def fault? (c : Webhook) : Option EndpointFault :=
  if c.url.scheme = "http" ∨ c.url.scheme = "https" then none
  else some (.unsupportedScheme c.url.scheme)

end Webhook

end AlertRouter
