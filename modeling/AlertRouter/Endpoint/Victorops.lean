import AlertRouter.Config.Global

/-! # VictorOps -/

namespace AlertRouter

structure Victorops where
  sendsResolved : Bool
  httpClient : Option HttpClient
  apiKey : Secret
  apiUrl : Option Url
  routingKey : String
  messageType : String
deriving DecidableEq, Repr

namespace Victorops

def schema : Schema Victorops where
  name := "VictorOpsConfig"
  blank := ⟨true, none, .unset, none, "", "CRITICAL"⟩
  fields := [
    .may "send_resolved" .flag (·.sendsResolved) fun v c => { c with sendsResolved := v },
    .maybe "http_config" HttpClient.schema.codec (·.httpClient)
      fun v c => { c with httpClient := v },
    .may "api_key" Secret.codec (·.apiKey) fun v c => { c with apiKey := v },
    .maybe "api_url" Url.codec (·.apiUrl) fun v c => { c with apiUrl := v },
    .may "routing_key" .text (·.routingKey) fun v c => { c with routingKey := v },
    .may "message_type" .text (·.messageType) fun v c => { c with messageType := v }]

/-- The settings with the global ones where there are none. -/
def filled (g : GlobalConfig) (c : Victorops) : Victorops :=
  { c with
    httpClient := some (c.httpClient.getD g.httpClient)
    apiUrl := (c.apiUrl.or g.victoropsApiUrl).map Url.withTrailingSlash
    apiKey := c.apiKey.orElse g.victoropsApiKey }

/-- The required settings that are missing, given the filled form. -/
def missing (c : Victorops) : List String :=
  (if c.apiUrl.isNone then ["VictorOps URL"] else []) ++
    (if c.apiKey.isUnset then ["VictorOps API key"] else [])

def fault? (c : Victorops) : Option EndpointFault :=
  if c.routingKey = "" then some .missingRoutingKey else none

end Victorops

end AlertRouter
