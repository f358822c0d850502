import AlertRouter.Config.Global

/-! # WeChat -/

namespace AlertRouter

structure Wechat where
  sendsResolved : Bool
  httpClient : Option HttpClient
  apiSecret : Secret
  apiUrl : Option Url
  corpId : String
  toUser : String
  toParty : String
  toTag : String
  agentId : String
deriving DecidableEq, Repr

namespace Wechat

def schema : Schema Wechat where
  name := "WechatConfig"
  blank := ⟨false, none, .unset, none, "", "", "", "", ""⟩
  fields := [
    .may "send_resolved" .flag (·.sendsResolved) fun v c => { c with sendsResolved := v },
    .maybe "http_config" HttpClient.schema.codec (·.httpClient)
      fun v c => { c with httpClient := v },
    .may "api_secret" Secret.codec (·.apiSecret) fun v c => { c with apiSecret := v },
    .maybe "api_url" Url.codec (·.apiUrl) fun v c => { c with apiUrl := v },
    .may "corp_id" .text (·.corpId) fun v c => { c with corpId := v },
    .may "to_user" .text (·.toUser) fun v c => { c with toUser := v },
    .may "to_party" .text (·.toParty) fun v c => { c with toParty := v },
    .may "to_tag" .text (·.toTag) fun v c => { c with toTag := v },
    .may "agent_id" .text (·.agentId) fun v c => { c with agentId := v }]

/-- The settings with the global ones where there are none. -/
def filled (g : GlobalConfig) (c : Wechat) : Wechat :=
  { c with
    httpClient := some (c.httpClient.getD g.httpClient)
    apiUrl := (c.apiUrl.or g.wechatApiUrl).map Url.withTrailingSlash
    apiSecret := c.apiSecret.orElse g.wechatApiSecret
    corpId := Text.orElse c.corpId g.wechatApiCorpId }

/-- The required settings that are missing, given the filled form. -/
def missing (c : Wechat) : List String :=
  (if c.apiUrl.isNone then ["WeChat URL"] else []) ++
    (if c.apiSecret.isUnset then ["WeChat API secret"] else []) ++
    (if c.corpId = "" then ["WeChat corp ID"] else [])

end Wechat

end AlertRouter
