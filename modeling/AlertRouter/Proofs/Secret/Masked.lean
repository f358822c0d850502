import AlertRouter.Proofs.Outcome
import AlertRouter.Routing.Table

/-! # Configurations without their secrets

A masked configuration has nothing left of a secret but whether it is set, and nothing at all of a
secret URL.  Two configurations have the same masked form if they differ in the contents of their
secrets alone (`Secret.masked_eq_iff`).

All that is done with a configuration can be done with the masked one.  Filling in the global
settings commutes with masking (`Endpoint.filled_masked`), the checks of endpoints find the same
faults, and so the same integrations are built or the same errors made
(`RoutingTable.buildResolved_masked`, `RoutingTable.ofConfig_masked`). -/

namespace AlertRouter

/-! ### Secrets -/

namespace Secret

/-- The secret with nothing left but whether it is set. -/
def masked (s : Secret) : Secret := if s.isUnset then unset else ⟨secretPlaceholder⟩

@[simp] theorem isUnset_masked (s : Secret) : s.masked.isUnset = s.isUnset := by
  unfold masked
  cases h : s.isUnset with
  | true => rfl
  | false => rfl

/-- Masked secrets are the same if both are set or neither is. -/
theorem masked_eq_iff {s s' : Secret} : s.masked = s'.masked ↔ s.isUnset = s'.isUnset := by
  constructor
  · intro h
    rw [← isUnset_masked s, h, isUnset_masked]
  · intro h
    rw [masked, masked, h]

@[simp] theorem masked_orElse (s default : Secret) :
    (s.orElse default).masked = s.masked.orElse default.masked := by
  rw [orElse, orElse, isUnset_masked]
  split <;> rfl

end Secret

/-- The secret URL with nothing left of it. -/
def SecretUrl.masked (_ : SecretUrl) : SecretUrl := ⟨default⟩

def HttpClient.masked (c : HttpClient) : HttpClient :=
  { c with bearerToken := c.bearerToken.map Secret.masked }

def GlobalConfig.masked (g : GlobalConfig) : GlobalConfig :=
  { g with
    httpClient := g.httpClient.masked
    smtpAuthPassword := g.smtpAuthPassword.masked
    smtpAuthSecret := g.smtpAuthSecret.masked
    slackApiUrl := g.slackApiUrl.map SecretUrl.masked
    opsgenieApiKey := g.opsgenieApiKey.masked
    wechatApiSecret := g.wechatApiSecret.masked
    victoropsApiKey := g.victoropsApiKey.masked }

/-! ### Endpoints -/

def Webhook.masked (c : Webhook) : Webhook :=
  { c with httpClient := c.httpClient.map HttpClient.masked }

def Email.masked (c : Email) : Email :=
  { c with authPassword := c.authPassword.masked, authSecret := c.authSecret.masked }

def Pagerduty.masked (c : Pagerduty) : Pagerduty :=
  { c with
    httpClient := c.httpClient.map HttpClient.masked
    routingKey := c.routingKey.masked
    serviceKey := c.serviceKey.masked }

def Opsgenie.masked (c : Opsgenie) : Opsgenie :=
  { c with httpClient := c.httpClient.map HttpClient.masked, apiKey := c.apiKey.masked }

def Wechat.masked (c : Wechat) : Wechat :=
  { c with httpClient := c.httpClient.map HttpClient.masked, apiSecret := c.apiSecret.masked }

def Slack.masked (c : Slack) : Slack :=
  { c with
    httpClient := c.httpClient.map HttpClient.masked
    apiUrl := c.apiUrl.map SecretUrl.masked }

def Victorops.masked (c : Victorops) : Victorops :=
  { c with httpClient := c.httpClient.map HttpClient.masked, apiKey := c.apiKey.masked }

def Pushover.masked (c : Pushover) : Pushover :=
  { c with
    httpClient := c.httpClient.map HttpClient.masked
    userKey := c.userKey.masked
    token := c.token.masked }

def Sns.masked (c : Sns) : Sns := { c with httpClient := c.httpClient.map HttpClient.masked }

@[simp] theorem Opsgenie.lacksKey_masked (c : Opsgenie) : c.masked.lacksKey = c.lacksKey := by
  simp [lacksKey, masked]

@[simp] theorem Slack.lacksUrl_masked (c : Slack) : c.masked.lacksUrl = c.lacksUrl := by
  simp [lacksUrl, masked]

namespace Endpoint

variable {e : Endpoint} {g : GlobalConfig}

def masked : Endpoint → Endpoint
  | webhook c => webhook c.masked
  | email c => email c.masked
  | pagerduty c => pagerduty c.masked
  | opsgenie c => opsgenie c.masked
  | wechat c => wechat c.masked
  | slack c => slack c.masked
  | victorops c => victorops c.masked
  | pushover c => pushover c.masked
  | sns c => sns c.masked

@[simp] theorem kind_masked : e.masked.kind = e.kind := by
  cases e <;> rfl

@[simp] theorem sendsResolved_masked : e.masked.sendsResolved = e.sendsResolved := by
  cases e <;> rfl

/-- No target shows a secret. -/
@[simp] theorem target_masked : e.masked.target = e.target := by
  cases e <;> rfl

/-- A setting is missing whatever the secrets are. -/
@[simp] theorem missing_masked : e.masked.missing = e.missing := by
  cases e with
  | webhook c => rfl
  | email c => rfl
  | pagerduty c => rfl
  | opsgenie c => simp [missing, masked, Opsgenie.missing, Opsgenie.masked, Opsgenie.lacksKey]
  | wechat c => simp [missing, masked, Wechat.missing, Wechat.masked]
  | slack c => simp [missing, masked, Slack.missing]
  | victorops c => simp [missing, masked, Victorops.missing, Victorops.masked]
  | pushover c => rfl
  | sns c => rfl

@[simp] theorem fault?_masked : e.masked.fault? = e.fault? := by
  cases e with
  | webhook c => rfl
  | email c => rfl
  | pagerduty c => simp [fault?, masked, Pagerduty.fault?, Pagerduty.masked]
  | opsgenie c => simp [fault?, masked, Opsgenie.fault?, Opsgenie.masked]
  | wechat c => rfl
  | slack c => simp [fault?, masked, Slack.fault?, Slack.masked]
  | victorops c => rfl
  | pushover c => simp [fault?, masked, Pushover.fault?, Pushover.masked]
  | sns c => rfl

/-- Masked settings are filled with masked ones. -/
theorem filled_masked : e.masked.filled g.masked = (e.filled g).masked := by
  cases e with
  | webhook c => simp [filled, masked, Webhook.filled, Webhook.masked, GlobalConfig.masked]
  | email c => simp [filled, masked, Email.filled, Email.masked, GlobalConfig.masked]
  | pagerduty c => simp [filled, masked, Pagerduty.filled, Pagerduty.masked, GlobalConfig.masked]
  | opsgenie c =>
      simp only [filled, masked, Opsgenie.filled, Opsgenie.lacksKey_masked]
      cases c.lacksKey <;> simp [Opsgenie.masked, GlobalConfig.masked]
  | wechat c => simp [filled, masked, Wechat.filled, Wechat.masked, GlobalConfig.masked]
  | slack c =>
      simp only [filled, masked, Slack.filled, Slack.lacksUrl_masked]
      cases c.lacksUrl <;> simp [Slack.masked, GlobalConfig.masked]
  | victorops c => simp [filled, masked, Victorops.filled, Victorops.masked, GlobalConfig.masked]
  | pushover c => simp [filled, masked, Pushover.filled, Pushover.masked, GlobalConfig.masked]
  | sns c => simp [filled, masked, Sns.filled, Sns.masked, GlobalConfig.masked]

@[simp] theorem checkComplete_masked : e.masked.checkComplete = e.checkComplete := by
  rw [checkComplete, checkComplete, missing_masked, kind_masked]

@[simp] theorem check_masked : e.masked.check = e.check := by
  rw [check, check, fault?_masked, kind_masked]

end Endpoint

/-! ### Receivers and configurations -/

namespace Receiver

variable {g : GlobalConfig}

def masked (r : Receiver) : Receiver where
  name := r.name
  webhooks := r.webhooks.map .masked
  emails := r.emails.map .masked
  pagerduties := r.pagerduties.map .masked
  opsgenies := r.opsgenies.map .masked
  wechats := r.wechats.map .masked
  slacks := r.slacks.map .masked
  victoropses := r.victoropses.map .masked
  pushovers := r.pushovers.map .masked
  snses := r.snses.map .masked

@[simp] theorem name_masked (r : Receiver) : r.masked.name = r.name := rfl

theorem endpoints_masked (r : Receiver) : r.masked.endpoints = r.endpoints.map .masked := by
  simp [endpoints, masked, Endpoint.masked, Function.comp_def]

theorem endpoints_filled_masked (r : Receiver) :
    (r.masked.filled g.masked).endpoints = (r.filled g).endpoints.map .masked := by
  rw [endpoints_filled, endpoints_filled, endpoints_masked, List.map_map, List.map_map]
  exact List.map_congr_left fun e _ => Endpoint.filled_masked

end Receiver

namespace Registry

variable {link : Option Url}

theorem numbered_masked (seen : List Kind) (es : List Endpoint) :
    numbered seen (es.map .masked) = (numbered seen es).map fun e => (e.1, e.2.masked) := by
  induction es generalizing seen with
  | nil => rfl
  | cons e es ih => rw [List.map_cons, numbered, numbered, ih, Endpoint.kind_masked, List.map_cons]

/-- A standard builder makes the same of a masked endpoint. -/
theorem integration_masked (receiver : String) (e : Nat × Endpoint) :
    standard.integration link receiver (e.1, e.2.masked) =
      standard.integration link receiver e := by
  simp [integration, notifier, standard, Builder.standard]

theorem build_congr {r r' : Receiver} (hname : r'.name = r.name)
    (hendpoints : r'.endpoints = r.endpoints.map .masked) :
    standard.build link r' = standard.build link r := by
  have hbuilt : (numbered [] r'.endpoints).map (standard.integration link r'.name) =
      (numbered [] r.endpoints).map (standard.integration link r.name) := by
    rw [hname, hendpoints, numbered_masked, List.map_map]
    exact List.map_congr_left fun e _ => integration_masked r.name e
  rw [build, build, hbuilt, hname]

end Registry

namespace Config

def masked (c : Config) : Config :=
  { c with global := c.global.masked, receivers := c.receivers.map .masked }

@[simp] theorem receiverNames_masked (c : Config) : c.masked.receiverNames = c.receiverNames := by
  simp [receiverNames, masked, Function.comp_def]

@[simp] theorem validate_masked (c : Config) : c.masked.validate = c.validate := by
  have hroute : c.masked.checkRoute = c.checkRoute := by
    rw [checkRoute, checkRoute, receiverNames_masked]
    rfl
  rw [validate, validate, receiverNames_masked, hroute]
  rfl

end Config

namespace RoutingTable

variable {g : GlobalConfig} {link : Option Url}

/-- The integrations of a receiver do not depend on its secrets. -/
theorem buildResolved_masked (r : Receiver) :
    buildResolved g.masked .standard link r.masked = buildResolved g .standard link r := by
  have hchecks : ((r.masked.filled g.masked).endpoints.forM fun e =>
      e.checkComplete.bind fun _ => e.check) =
      (r.filled g).endpoints.forM fun e => e.checkComplete.bind fun _ => e.check := by
    rw [Receiver.endpoints_filled_masked, List.forM_eq_forM, List.forM_map]
    simp only [Endpoint.checkComplete_masked, Endpoint.check_masked]
  have hbuild : Registry.standard.build link (r.masked.filled g.masked) =
      Registry.standard.build link (r.filled g) :=
    Registry.build_congr rfl r.endpoints_filled_masked
  simp only [buildResolved, Receiver.resolve, Receiver.fill, hchecks]
  cases (r.filled g).endpoints.forM fun e => e.checkComplete.bind fun _ => e.check with
  | error e => rfl
  | ok _ =>
      simp only [Except.map, Except.ok_bind]
      exact hbuild

/-- The table of a configuration does not depend on its secrets. -/
theorem ofConfig_masked (c : Config) :
    ofConfig c.masked .standard link = ofConfig c .standard link := by
  simp only [ofConfig, Config.masked, List.foldlM_map, buildResolved_masked, Receiver.name_masked]

end RoutingTable

end AlertRouter
