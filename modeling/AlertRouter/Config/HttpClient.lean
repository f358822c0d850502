import AlertRouter.Config.Secret

/-! # HTTP client settings -/

namespace AlertRouter

/-- How an integration sends its HTTP requests. -/
structure HttpClient where
  bearerToken : Option Secret
  proxyUrl : Option Url
  skipsTlsVerification : Bool
  followsRedirects : Bool
deriving DecidableEq, Repr

namespace HttpClient

/-- The settings unless something else is given. -/
def initial : HttpClient := ⟨none, none, false, true⟩

instance : Inhabited HttpClient := ⟨initial⟩

def schema : Schema HttpClient where
  name := "HttpClientConfig"
  blank := initial
  fields := [
    .maybe "bearer_token" Secret.codec (·.bearerToken) fun v c => { c with bearerToken := v },
    .maybe "proxy_url" Url.codec (·.proxyUrl) fun v c => { c with proxyUrl := v },
    .may "tls_insecure_skip_verify" .flag (·.skipsTlsVerification)
      fun v c => { c with skipsTlsVerification := v },
    .may "follow_redirects" .flag (·.followsRedirects) fun v c => { c with followsRedirects := v }]

end HttpClient

end AlertRouter
