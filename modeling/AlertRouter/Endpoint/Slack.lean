import AlertRouter.Config.Global

/-! # Slack

The URL may be given itself or by the name of a file; both together count as one setting when the
global settings are filled in. -/

namespace AlertRouter

structure Slack where
  sendsResolved : Bool
  httpClient : Option HttpClient
  apiUrl : Option SecretUrl
  apiUrlFile : String
  channel : String
  username : String
  title : String
  text : String
deriving DecidableEq, Repr

namespace Slack

def schema : Schema Slack where
  name := "SlackConfig"
  blank := ⟨false, none, none, "", "", "", "", ""⟩
  fields := [
    .may "send_resolved" .flag (·.sendsResolved) fun v c => { c with sendsResolved := v },
    .maybe "http_config" HttpClient.schema.codec (·.httpClient)
      fun v c => { c with httpClient := v },
    .maybe "api_url" SecretUrl.codec (·.apiUrl) fun v c => { c with apiUrl := v },
    .may "api_url_file" .text (·.apiUrlFile) fun v c => { c with apiUrlFile := v },
    .may "channel" .text (·.channel) fun v c => { c with channel := v },
    .may "username" .text (·.username) fun v c => { c with username := v },
    .may "title" .text (·.title) fun v c => { c with title := v },
    .may "text" .text (·.text) fun v c => { c with text := v }]

/-- Is there neither a URL nor a file with one? -/
def lacksUrl (c : Slack) : Bool := c.apiUrl.isNone && c.apiUrlFile == ""

/-- The settings with the global ones where there are none. -/
def filled (g : GlobalConfig) (c : Slack) : Slack :=
  { c with
    httpClient := some (c.httpClient.getD g.httpClient)
    apiUrl := if c.lacksUrl then g.slackApiUrl else c.apiUrl
    apiUrlFile := if c.lacksUrl then g.slackApiUrlFile else c.apiUrlFile }

/-- The required settings that are missing, given the filled form. -/
def missing (c : Slack) : List String := if c.lacksUrl then ["Slack API URL"] else []

def fault? (c : Slack) : Option EndpointFault :=
  if c.apiUrl.isNone ∨ c.apiUrlFile = "" then none else some .bothUrlAndFile

end Slack

end AlertRouter
