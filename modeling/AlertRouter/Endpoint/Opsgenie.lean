import AlertRouter.Config.Global

/-! # OpsGenie

The key may be given itself or by the name of a file; both together count as one setting when the
global settings are filled in. -/

namespace AlertRouter

structure Opsgenie where
  sendsResolved : Bool
  httpClient : Option HttpClient
  apiKey : Secret
  apiKeyFile : String
  apiUrl : Option Url
  message : String
  priority : String
deriving DecidableEq, Repr

namespace Opsgenie

def schema : Schema Opsgenie where
  name := "OpsGenieConfig"
  blank := ⟨true, none, .unset, "", none, "", ""⟩
  fields := [
    .may "send_resolved" .flag (·.sendsResolved) fun v c => { c with sendsResolved := v },
    .maybe "http_config" HttpClient.schema.codec (·.httpClient)
      fun v c => { c with httpClient := v },
    .may "api_key" Secret.codec (·.apiKey) fun v c => { c with apiKey := v },
    .may "api_key_file" .text (·.apiKeyFile) fun v c => { c with apiKeyFile := v },
    .maybe "api_url" Url.codec (·.apiUrl) fun v c => { c with apiUrl := v },
    .may "message" .text (·.message) fun v c => { c with message := v },
    .may "priority" .text (·.priority) fun v c => { c with priority := v }]

/-- Is there neither a key nor a file with one? -/
def lacksKey (c : Opsgenie) : Bool := c.apiKey.isUnset && c.apiKeyFile == ""

/-- The settings with the global ones where there are none. -/
def filled (g : GlobalConfig) (c : Opsgenie) : Opsgenie :=
  { c with
    httpClient := some (c.httpClient.getD g.httpClient)
    apiUrl := (c.apiUrl.or g.opsgenieApiUrl).map Url.withTrailingSlash
    apiKey := if c.lacksKey then g.opsgenieApiKey else c.apiKey
    apiKeyFile := if c.lacksKey then g.opsgenieApiKeyFile else c.apiKeyFile }

/-- The required settings that are missing, given the filled form. -/
def missing (c : Opsgenie) : List String :=
  (if c.apiUrl.isNone then ["OpsGenie URL"] else []) ++
    (if c.lacksKey then ["OpsGenie API key"] else [])

def fault? (c : Opsgenie) : Option EndpointFault :=
  if c.apiKey.isUnset ∨ c.apiKeyFile = "" then none else some .bothKeyAndFile

end Opsgenie

end AlertRouter
