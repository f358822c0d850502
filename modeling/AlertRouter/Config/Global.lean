import AlertRouter.Config.HttpClient
import AlertRouter.Error

/-! # Global settings

What holds for all receivers that do not say otherwise. -/

namespace AlertRouter

structure GlobalConfig where
  resolveTimeout : Nat
  httpClient : HttpClient
  smtpFrom : String
  smtpHello : String
  smtpSmarthost : String
  smtpAuthUsername : String
  smtpAuthPassword : Secret
  smtpAuthSecret : Secret
  smtpAuthIdentity : String
  smtpRequireTls : Bool
  slackApiUrl : Option SecretUrl
  slackApiUrlFile : String
  pagerdutyUrl : Option Url
  opsgenieApiUrl : Option Url
  opsgenieApiKey : Secret
  opsgenieApiKeyFile : String
  wechatApiUrl : Option Url
  wechatApiSecret : Secret
  wechatApiCorpId : String
  victoropsApiUrl : Option Url
  victoropsApiKey : Secret
deriving DecidableEq, Repr

namespace GlobalConfig

/-- A URL with the scheme `https`. -/
def https (host : String) (path : List String) : Url :=
  ⟨"https", "", "", some host, none, .segments path, none, none⟩

/-- The settings unless something else is given. -/
def initial : GlobalConfig where
  resolveTimeout := 300
  httpClient := .initial
  smtpFrom := ""
  smtpHello := "localhost"
  smtpSmarthost := ""
  smtpAuthUsername := ""
  smtpAuthPassword := .unset
  smtpAuthSecret := .unset
  smtpAuthIdentity := ""
  smtpRequireTls := true
  slackApiUrl := none
  slackApiUrlFile := ""
  pagerdutyUrl := some (https "events.pagerduty.com" ["v2", "enqueue"])
  opsgenieApiUrl := some (https "api.opsgenie.com" [""])
  opsgenieApiKey := .unset
  opsgenieApiKeyFile := ""
  wechatApiUrl := some (https "qyapi.weixin.qq.com" ["cgi-bin", ""])
  wechatApiSecret := .unset
  wechatApiCorpId := ""
  victoropsApiUrl := some
    (https "alert.victorops.com" ["integrations", "generic", "20131114", "alert", ""])
  victoropsApiKey := .unset

instance : Inhabited GlobalConfig := ⟨initial⟩

def schema : Schema GlobalConfig where
  name := "GlobalConfig"
  blank := initial
  fields := [
    .may "resolve_timeout_secs" .natural (·.resolveTimeout)
      fun v g => { g with resolveTimeout := v },
    .may "http_config" HttpClient.schema.codec (·.httpClient) fun v g => { g with httpClient := v },
    .may "smtp_from" .text (·.smtpFrom) fun v g => { g with smtpFrom := v },
    .may "smtp_hello" .text (·.smtpHello) fun v g => { g with smtpHello := v },
    .may "smtp_smarthost" .text (·.smtpSmarthost) fun v g => { g with smtpSmarthost := v },
    .may "smtp_auth_username" .text (·.smtpAuthUsername)
      fun v g => { g with smtpAuthUsername := v },
    .may "smtp_auth_password" Secret.codec (·.smtpAuthPassword)
      fun v g => { g with smtpAuthPassword := v },
    .may "smtp_auth_secret" Secret.codec (·.smtpAuthSecret)
      fun v g => { g with smtpAuthSecret := v },
    .may "smtp_auth_identity" .text (·.smtpAuthIdentity)
      fun v g => { g with smtpAuthIdentity := v },
    .may "smtp_require_tls" .flag (·.smtpRequireTls) fun v g => { g with smtpRequireTls := v },
    .maybe "slack_api_url" SecretUrl.codec (·.slackApiUrl) fun v g => { g with slackApiUrl := v },
    .may "slack_api_url_file" .text (·.slackApiUrlFile) fun v g => { g with slackApiUrlFile := v },
    .maybe "pagerduty_url" Url.codec (·.pagerdutyUrl) fun v g => { g with pagerdutyUrl := v },
    .maybe "opsgenie_api_url" Url.codec (·.opsgenieApiUrl)
      fun v g => { g with opsgenieApiUrl := v },
    .may "opsgenie_api_key" Secret.codec (·.opsgenieApiKey)
      fun v g => { g with opsgenieApiKey := v },
    .may "opsgenie_api_key_file" .text (·.opsgenieApiKeyFile)
      fun v g => { g with opsgenieApiKeyFile := v },
    .maybe "wechat_api_url" Url.codec (·.wechatApiUrl) fun v g => { g with wechatApiUrl := v },
    .may "wechat_api_secret" Secret.codec (·.wechatApiSecret)
      fun v g => { g with wechatApiSecret := v },
    .may "wechat_api_corp_id" .text (·.wechatApiCorpId) fun v g => { g with wechatApiCorpId := v },
    .maybe "victorops_api_url" Url.codec (·.victoropsApiUrl)
      fun v g => { g with victoropsApiUrl := v },
    .may "victorops_api_key" Secret.codec (·.victoropsApiKey)
      fun v g => { g with victoropsApiKey := v }]

/-- The seconds after which an alert without an end resolves: at most 32 bits of them. -/
def timeout (g : GlobalConfig) : Nat := min g.resolveTimeout (UInt32.size - 1)

/-- Sets the URL of Slack from its text. -/
def setSlackUrl (g : GlobalConfig) (text : String) : Except AlertError GlobalConfig :=
  match Url.parse text with
  | .ok url => .ok { g with slackApiUrl := some ⟨url⟩ }
  | .error fault => .error (.badInput (.slackUrl fault))

end GlobalConfig

/-- A text, or another one if it is empty. -/
def Text.orElse (s default : String) : String := if s = "" then default else s

end AlertRouter
