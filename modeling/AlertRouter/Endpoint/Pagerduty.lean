import AlertRouter.Config.Global

/-! # PagerDuty -/

namespace AlertRouter

structure Pagerduty where
  sendsResolved : Bool
  httpClient : Option HttpClient
  routingKey : Secret
  serviceKey : Secret
  url : Option Url
  client : String
  severity : String
deriving DecidableEq, Repr

namespace Pagerduty

def schema : Schema Pagerduty where
  name := "PagerdutyConfig"
  blank := ⟨true, none, .unset, .unset, none, "", "error"⟩
  fields := [
    .may "send_resolved" .flag (·.sendsResolved) fun v c => { c with sendsResolved := v },
    .maybe "http_config" HttpClient.schema.codec (·.httpClient)
      fun v c => { c with httpClient := v },
    .may "routing_key" Secret.codec (·.routingKey) fun v c => { c with routingKey := v },
    .may "service_key" Secret.codec (·.serviceKey) fun v c => { c with serviceKey := v },
    .maybe "url" Url.codec (·.url) fun v c => { c with url := v },
    .may "client" .text (·.client) fun v c => { c with client := v },
    .may "severity" .text (·.severity) fun v c => { c with severity := v }]

/-- The settings with the global ones where there are none. -/
def filled (g : GlobalConfig) (c : Pagerduty) : Pagerduty :=
  { c with
    httpClient := some (c.httpClient.getD g.httpClient)
    url := c.url.or g.pagerdutyUrl }

/-- The required settings that are missing, given the filled form. -/
def missing (c : Pagerduty) : List String := if c.url.isNone then ["PagerDuty URL"] else []

def fault? (c : Pagerduty) : Option EndpointFault :=
  if c.routingKey.isUnset ∧ c.serviceKey.isUnset then some .missingKey else none

end Pagerduty

end AlertRouter
