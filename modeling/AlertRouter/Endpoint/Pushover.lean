import AlertRouter.Config.Global

/-! # Pushover -/

namespace AlertRouter

structure Pushover where
  sendsResolved : Bool
  httpClient : Option HttpClient
  userKey : Secret
  token : Secret
  title : String
  priority : String
deriving DecidableEq, Repr

namespace Pushover

def schema : Schema Pushover where
  name := "PushoverConfig"
  blank := ⟨true, none, .unset, .unset, "", ""⟩
  fields := [
    .may "send_resolved" .flag (·.sendsResolved) fun v c => { c with sendsResolved := v },
    .maybe "http_config" HttpClient.schema.codec (·.httpClient)
      fun v c => { c with httpClient := v },
    .may "user_key" Secret.codec (·.userKey) fun v c => { c with userKey := v },
    .may "token" Secret.codec (·.token) fun v c => { c with token := v },
    .may "title" .text (·.title) fun v c => { c with title := v },
    .may "priority" .text (·.priority) fun v c => { c with priority := v }]

/-- The settings with the global ones where there are none. -/
def filled (g : GlobalConfig) (c : Pushover) : Pushover :=
  { c with httpClient := some (c.httpClient.getD g.httpClient) }

def fault? (c : Pushover) : Option EndpointFault :=
  if c.userKey.isUnset then some .missingUserKey
  else if c.token.isUnset then some .missingToken
  else none

end Pushover

end AlertRouter
