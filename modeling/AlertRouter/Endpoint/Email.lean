import AlertRouter.Config.Global

/-! # Mail -/

namespace AlertRouter

/-- A mail recipient and the server to send through. -/
structure Email where
  sendsResolved : Bool
  recipient : String
  sender : String
  hello : String
  smarthost : String
  authUsername : String
  authPassword : Secret
  authSecret : Secret
  authIdentity : String
  requireTls : Option Bool
  headers : SortedMap String String
deriving DecidableEq, Repr

namespace Email

def schema : Schema Email where
  name := "EmailConfig"
  blank := ⟨false, "", "", "", "", "", .unset, .unset, "", none, .empty⟩
  fields := [
    .may "send_resolved" .flag (·.sendsResolved) fun v c => { c with sendsResolved := v },
    .may "to" .text (·.recipient) fun v c => { c with recipient := v },
    .may "from" .text (·.sender) fun v c => { c with sender := v },
    .may "hello" .text (·.hello) fun v c => { c with hello := v },
    .may "smarthost" .text (·.smarthost) fun v c => { c with smarthost := v },
    .may "auth_username" .text (·.authUsername) fun v c => { c with authUsername := v },
    .may "auth_password" Secret.codec (·.authPassword) fun v c => { c with authPassword := v },
    .may "auth_secret" Secret.codec (·.authSecret) fun v c => { c with authSecret := v },
    .may "auth_identity" .text (·.authIdentity) fun v c => { c with authIdentity := v },
    .maybe "require_tls" .flag (·.requireTls) fun v c => { c with requireTls := v },
    .omitting (·.isEmpty) "headers" (.map .text) (·.headers) fun v c => { c with headers := v }]

/-- The recipient with the global settings where it has none of its own. -/
def filled (g : GlobalConfig) (c : Email) : Email :=
  { c with
    smarthost := Text.orElse c.smarthost g.smtpSmarthost
    sender := Text.orElse c.sender g.smtpFrom
    hello := Text.orElse c.hello g.smtpHello
    authUsername := Text.orElse c.authUsername g.smtpAuthUsername
    authPassword := c.authPassword.orElse g.smtpAuthPassword
    authSecret := c.authSecret.orElse g.smtpAuthSecret
    authIdentity := Text.orElse c.authIdentity g.smtpAuthIdentity
    requireTls := some (c.requireTls.getD g.smtpRequireTls) }

/-- The required settings that are missing, given the filled form. -/
def missing (c : Email) : List String :=
  (if c.smarthost = "" then ["SMTP smarthost"] else []) ++
    (if c.sender = "" then ["SMTP from"] else [])

def fault? (c : Email) : Option EndpointFault :=
  if c.recipient = "" then some .missingRecipient else none

end Email

end AlertRouter
