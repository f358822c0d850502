import AlertRouter.Config.Global
import AlertRouter.Proofs.Doc.Reread

/-! # Settings that are shown and read again

Settings are shown with the placeholder in place of their secrets (`GlobalConfig.shown`), so this is
the best that can come back when they are read again.  A field that is left out because its value is
absent then keeps the value of the blank.  For the options of the client this value is an absent one
too, and everything comes back (`HttpClient.reread`).  But the settings have four endpoints in their
blank: to leave one of them unset is to have the initial one again (`GlobalConfig.withDefaults`).
So the settings come back exactly if all four are set (`GlobalConfig.reread_displayed`). -/

namespace AlertRouter

/-! ### Single values -/

theorem Schema.solid {σ : Type} (s : Schema σ) : s.codec.Solid := fun _ => ⟨nofun, nofun⟩

namespace Url

variable {u : Url}

/-- Parsing the text of the URL gives it back. -/
def ReadsBack (u : Url) : Prop := parse u.text = .ok u

theorem solid : codec.Solid := fun _ => ⟨nofun, nofun⟩

@[simp] theorem reread (h : u.ReadsBack) : codec.reread u = .ok u := by
  refine Codec.parsed_reread ?_
  rw [h]
  rfl

@[simp] theorem optional_reread {o : Option Url} (h : ∀ u ∈ o, u.ReadsBack) :
    codec.optional.reread o = .ok o :=
  Codec.optional_reread_self solid fun u hu => reread (h u hu)

end Url

namespace Secret

/-- What is shown of every secret. -/
def shown : Secret := ⟨secretPlaceholder⟩

theorem solid : codec.Solid := fun _ => ⟨nofun, nofun⟩

@[simp] theorem reread (s : Secret) : codec.reread s = .ok shown := rfl

@[simp] theorem optional_reread (o : Option Secret) :
    codec.optional.reread o = .ok (o.map fun _ => shown) :=
  Codec.optional_reread solid fun s _ => reread s

end Secret

/-! ### The options of the client -/

namespace HttpClient

/-- The options as they are shown. -/
def shown (c : HttpClient) : HttpClient :=
  { c with bearerToken := c.bearerToken.map fun _ => .shown }

theorem orderly : schema.Orderly := ⟨by decide, by simp [schema]⟩

/-- The options come back, all of them. -/
theorem reread {c : HttpClient} (h : ∀ u ∈ c.proxyUrl, u.ReadsBack) :
    schema.codec.reread c = .ok c.shown := by
  have hproxy := Url.optional_reread h
  rw [Schema.codec_reread orderly]
  simp [Schema.reread, schema, initial, hproxy, Except.ok_map, shown]

@[simp] theorem optional_reread {o : Option HttpClient}
    (h : ∀ c ∈ o, ∀ u ∈ c.proxyUrl, u.ReadsBack) :
    schema.codec.optional.reread o = .ok (o.map shown) :=
  Codec.optional_reread schema.solid fun c hc => reread (h c hc)

end HttpClient

/-! ### The settings -/

namespace GlobalConfig

variable {g : GlobalConfig}

/-- The settings as they are shown; this says nothing of Slack's URL, which is shown as no URL. -/
def shown (g : GlobalConfig) : GlobalConfig :=
  { g with
    httpClient := g.httpClient.shown
    smtpAuthPassword := .shown
    smtpAuthSecret := .shown
    opsgenieApiKey := .shown
    wechatApiSecret := .shown
    victoropsApiKey := .shown }

/-- The settings with the initial endpoint wherever one is not set. -/
def withDefaults (g : GlobalConfig) : GlobalConfig :=
  { g with
    pagerdutyUrl := g.pagerdutyUrl.or initial.pagerdutyUrl
    opsgenieApiUrl := g.opsgenieApiUrl.or initial.opsgenieApiUrl
    wechatApiUrl := g.wechatApiUrl.or initial.wechatApiUrl
    victoropsApiUrl := g.victoropsApiUrl.or initial.victoropsApiUrl }

/-- All endpoints are set that the initial settings have. -/
structure Endpointed (g : GlobalConfig) : Prop where
  pagerduty : g.pagerdutyUrl ≠ none
  opsgenie : g.opsgenieApiUrl ≠ none
  wechat : g.wechatApiUrl ≠ none
  victorops : g.victoropsApiUrl ≠ none

/-- The timeout has at most 64 bits, and the URLs can be read. -/
structure Readable (g : GlobalConfig) : Prop where
  timeout : g.resolveTimeout ≤ Codec.maxNatural
  proxy : ∀ u ∈ g.httpClient.proxyUrl, u.ReadsBack
  pagerduty : ∀ u ∈ g.pagerdutyUrl, u.ReadsBack
  opsgenie : ∀ u ∈ g.opsgenieApiUrl, u.ReadsBack
  wechat : ∀ u ∈ g.wechatApiUrl, u.ReadsBack
  victorops : ∀ u ∈ g.victoropsApiUrl, u.ReadsBack

theorem orderly : schema.Orderly := ⟨by decide, by simp [schema]⟩

theorem reread (h : g.Readable) (hslack : g.slackApiUrl = none) :
    schema.codec.reread g = .ok g.shown.withDefaults := by
  have hclient := HttpClient.reread h.proxy
  have hpagerduty := Url.optional_reread h.pagerduty
  have hopsgenie := Url.optional_reread h.opsgenie
  have hwechat := Url.optional_reread h.wechat
  have hvictorops := Url.optional_reread h.victorops
  rw [Schema.codec_reread orderly]
  -- the URLs are not absent in the blank, so it matters what a field does to the value before it
  simp [Schema.reread, schema, initial, Field.maybe_reread_or, -Field.maybe_reread, h.timeout,
    hclient, hpagerduty, hopsgenie, hwechat, hvictorops, hslack, Except.ok_map, shown,
    withDefaults]

/-- An absent value is not replaced by a default exactly if there is none to replace it. -/
theorem or_some_eq_iff {α : Type} {o : Option α} {x : α} : o.or (some x) = o ↔ o ≠ none := by
  cases o <;> simp

theorem withDefaults_eq_iff : g.withDefaults = g ↔ g.Endpointed := by
  constructor
  · intro h
    exact ⟨or_some_eq_iff.mp (congrArg pagerdutyUrl h),
      or_some_eq_iff.mp (congrArg opsgenieApiUrl h), or_some_eq_iff.mp (congrArg wechatApiUrl h),
      or_some_eq_iff.mp (congrArg victoropsApiUrl h)⟩
  · intro h
    have hpagerduty : g.pagerdutyUrl.or initial.pagerdutyUrl = _ := or_some_eq_iff.mpr h.pagerduty
    have hopsgenie : g.opsgenieApiUrl.or initial.opsgenieApiUrl = _ := or_some_eq_iff.mpr h.opsgenie
    have hwechat : g.wechatApiUrl.or initial.wechatApiUrl = _ := or_some_eq_iff.mpr h.wechat
    have hvictorops : g.victoropsApiUrl.or initial.victoropsApiUrl = _ :=
      or_some_eq_iff.mpr h.victorops
    rw [withDefaults, hpagerduty, hopsgenie, hwechat, hvictorops]

/-- **Settings without a URL of Slack that are shown and read again have their secrets replaced by
the placeholder and each endpoint that was not set by the initial one**; nothing else changes.  They
are read as they were shown exactly if all of these endpoints were set. -/
theorem reread_displayed (h : g.Readable) (hslack : g.slackApiUrl = none) :
    schema.codec.reread g = .ok g.shown.withDefaults ∧
      (schema.codec.reread g = .ok g.shown ↔ g.Endpointed) := by
  have hreread := reread h hslack
  refine ⟨hreread, ?_⟩
  rw [hreread, Except.ok.injEq, withDefaults_eq_iff]
  exact ⟨fun ⟨h₁, h₂, h₃, h₄⟩ => ⟨h₁, h₂, h₃, h₄⟩, fun ⟨h₁, h₂, h₃, h₄⟩ => ⟨h₁, h₂, h₃, h₄⟩⟩

/-- The initial settings without the endpoints other than Opsgenie's. -/
def opsgenieOnly : GlobalConfig :=
  { initial with pagerdutyUrl := none, wechatApiUrl := none, victoropsApiUrl := none }

theorem opsgenieOnly_readable : opsgenieOnly.Readable where
  timeout := by decide
  proxy := by rintro u ⟨⟩
  pagerduty := by rintro u ⟨⟩
  opsgenie := by rintro u ⟨⟩; rfl
  wechat := by rintro u ⟨⟩
  victorops := by rintro u ⟨⟩

/-- All the initial endpoints are there after reading. -/
theorem reread_displayed_opsgenieOnly :
    opsgenieOnly.Readable ∧ opsgenieOnly.slackApiUrl = none ∧
      schema.codec.reread opsgenieOnly = .ok initial.shown := by
  refine ⟨opsgenieOnly_readable, rfl, ?_⟩
  rw [(reread_displayed opsgenieOnly_readable rfl).1]
  rfl

/-- The endpoint of Pagerduty was not set and is set after reading. -/
theorem unset_comes_back_set : opsgenieOnly.Readable ∧ opsgenieOnly.slackApiUrl = none ∧
    opsgenieOnly.shown.pagerdutyUrl = none ∧
    (schema.codec.reread opsgenieOnly).map pagerdutyUrl =
      .ok (some (https "events.pagerduty.com" ["v2", "enqueue"])) := by
  refine ⟨opsgenieOnly_readable, rfl, rfl, ?_⟩
  rw [reread opsgenieOnly_readable rfl]
  rfl

end GlobalConfig

end AlertRouter
