import AlertRouter.Receiver.Basic
import Mathlib.Data.List.Basic

/-! # Settings that may be left to the global ones

A kind of endpoint has settings of its own and settings that stand in the global configuration as
well.  The latter are listed in a table for each kind (`Email.settings` and so on), in the order in
which their absence is reported.  A key and the file that it may be read from are one setting, and
the URLs of some services are made to end in a slash (`Url.Slashed`).

Everything about a kind follows from its table.  Filling in the global settings gives each setting
of the table the value that was chosen for it and changes nothing else (`Setting.Fills`), the
required settings that are still missing are those that neither the endpoint nor the global
configuration has (`Setting.Fills.absent_eq`), and filling in the settings once more changes nothing
where the first time has finished all values (`Setting.Fills.eq_of_fills`). -/

namespace AlertRouter

/-! ### URLs that end in a slash -/

namespace Url

theorem Path.text_withSlash {p : Path} (h : p ≠ .raw "") : p.withSlash.text = p.text ++ "/" := by
  cases p with
  | segments parts => simp [withSlash, text, String.join_append]
  | raw text =>
      have hne : text ≠ "" := fun heq => h (congrArg raw heq)
      exact if_neg hne

theorem Path.endsInSlash_withSlash {p : Path} (h : p ≠ .raw "") :
    p.withSlash.endsInSlash = true := by
  rw [endsInSlash, text_withSlash h]
  simp

/-- A slash can be appended to the path.  To an opaque path that is empty none can. -/
def TakesSlash (u : Url) : Prop := u.path ≠ .raw ""

instance (u : Url) : Decidable u.TakesSlash := inferInstanceAs (Decidable (u.path ≠ .raw ""))

/-- `u'` is `u` with a path that ends in a slash. -/
structure Slashed (u u' : Url) : Prop where
  ends : u'.path.endsInSlash = true
  path : u'.path.text = if u.path.endsInSlash then u.path.text else u.path.text ++ "/"
  rest : u' = { u with path := u'.path }
  kept : u.path.endsInSlash = true → u' = u

variable {u : Url}

theorem withTrailingSlash_of_endsInSlash (h : u.path.endsInSlash = true) :
    u.withTrailingSlash = u :=
  if_pos h

theorem slashed_withTrailingSlash (h : u.TakesSlash) : u.Slashed u.withTrailingSlash := by
  cases hends : u.path.endsInSlash with
  | true =>
      rw [withTrailingSlash_of_endsInSlash hends]
      exact ⟨hends, by rw [hends]; rfl, rfl, fun _ => rfl⟩
  | false =>
      have hpath : u.withTrailingSlash = { u with path := u.path.withSlash } := by
        rw [withTrailingSlash, hends]
        rfl
      rw [hpath]
      refine ⟨Path.endsInSlash_withSlash h, ?_, rfl, ?_⟩
      · rw [hends]
        exact Path.text_withSlash h
      · rw [hends]
        nofun

theorem map_withTrailingSlash_idem {o : Option Url} (h : ∀ u, o = some u → u.TakesSlash) :
    (o.map withTrailingSlash).map withTrailingSlash = o.map withTrailingSlash := by
  cases o with
  | none => rfl
  | some u =>
      have hends := (slashed_withTrailingSlash (h u rfl)).ends
      exact congrArg some (withTrailingSlash_of_endsInSlash hends)

end Url

/-! ### Tables of settings -/

/-- A setting of an endpoint with a counterpart in the global configuration. -/
structure Setting (α : Type) where
  Value : Type
  [decEq : DecidableEq Value]
  unset : Value
  get : α → Value
  set : Value → α → α
  set_get : ∀ c, set (get c) c = c
  ofGlobal : GlobalConfig → Value
  /-- What is made of the value, be it the endpoint's or the global one. -/
  finish : Value → Value
  finish_eq_unset_iff : ∀ v, finish v = unset ↔ v = unset
  /-- What the setting is called, if an endpoint cannot do without. -/
  required : Option String

namespace Setting

variable {α : Type}

instance (s : Setting α) : DecidableEq s.Value := s.decEq

/-- A setting that is used as it is given. -/
def plain {V : Type} [DecidableEq V] (unset : V) (get : α → V) (set : V → α → α)
    (ofGlobal : GlobalConfig → V) (required : Option String)
    (set_get : ∀ c, set (get c) c = c := by intro c; rfl) : Setting α where
  Value := V
  unset := unset
  get := get
  set := set
  set_get := set_get
  ofGlobal := ofGlobal
  finish := id
  finish_eq_unset_iff _ := Iff.rfl
  required := required

/-- A client for HTTP; the global one is always there. -/
def http (get : α → Option HttpClient) (set : Option HttpClient → α → α)
    (set_get : ∀ c, set (get c) c = c := by intro c; rfl) : Setting α :=
  plain none get set (fun g => some g.httpClient) none set_get

/-- A URL that is made to end in a slash. -/
def slashedUrl (get : α → Option Url) (set : Option Url → α → α)
    (ofGlobal : GlobalConfig → Option Url) (name : String)
    (set_get : ∀ c, set (get c) c = c := by intro c; rfl) : Setting α where
  Value := Option Url
  unset := none
  get := get
  set := set
  set_get := set_get
  ofGlobal := ofGlobal
  finish := Option.map Url.withTrailingSlash
  finish_eq_unset_iff _ := Option.map_eq_none_iff
  required := some name

/-- The value of a setting: that of the endpoint if it has one, and else the global one. -/
def chosen (s : Setting α) (g : GlobalConfig) (c : α) : s.Value :=
  if s.get c = s.unset then s.ofGlobal g else s.get c

/-- The required settings that an endpoint does not have. -/
def absent (table : List (Setting α)) (c : α) : List String :=
  table.flatMap fun s => if s.get c = s.unset then s.required.toList else []

/-- The required settings that neither an endpoint nor the global configuration has. -/
def lacking (table : List (Setting α)) (g : GlobalConfig) (c : α) : List String :=
  table.flatMap fun s =>
    if s.get c = s.unset ∧ s.ofGlobal g = s.unset then s.required.toList else []

/-- The first endpoint with the settings of the second one. -/
def transfer (table : List (Setting α)) (c c' : α) : α :=
  table.foldl (fun d s => s.set (s.get c') d) c

/-- `c'` is `c` filled from the global settings: all settings of the table have their chosen values,
and in nothing else does `c'` differ. -/
structure Fills (table : List (Setting α)) (g : GlobalConfig) (c c' : α) : Prop where
  chosen : ∀ s ∈ table, s.get c' = s.finish (s.chosen g c)
  rest : transfer table c c' = c'

variable {table : List (Setting α)} {g : GlobalConfig} {c c' c'' : α}

theorem chosen_eq_unset_iff (s : Setting α) :
    s.chosen g c = s.unset ↔ s.get c = s.unset ∧ s.ofGlobal g = s.unset := by
  unfold chosen
  split
  · next h => simp [h]
  · next h => simp [h]

/-- **What is missing after filling is what neither side has.** -/
theorem Fills.absent_eq (h : Fills table g c c') : absent table c' = lacking table g c := by
  refine List.flatMap_congr fun s hs => ?_
  have hunset : s.get c' = s.unset ↔ s.get c = s.unset ∧ s.ofGlobal g = s.unset := by
    rw [h.chosen s hs, s.finish_eq_unset_iff, chosen_eq_unset_iff]
  rw [if_congr hunset rfl rfl]

/-- A chosen value is chosen again. -/
theorem chosen_of_get_eq {s : Setting α} (h : s.get c' = s.finish (s.chosen g c)) :
    s.chosen g c' = s.get c' := by
  unfold chosen
  split
  · next hunset =>
      have hchosen : s.chosen g c = s.unset := (s.finish_eq_unset_iff _).mp (h.symm.trans hunset)
      rw [hunset, ((chosen_eq_unset_iff s).mp hchosen).2]
  · rfl

theorem transfer_self (table : List (Setting α)) (c : α) : transfer table c c = c := by
  unfold transfer
  induction table with
  | nil => rfl
  | cons s table ih => rw [List.foldl_cons, s.set_get, ih]

/-- The value is finished with, once it has been finished. -/
def Settles (s : Setting α) (g : GlobalConfig) (c : α) : Prop :=
  s.finish (s.finish (s.chosen g c)) = s.finish (s.chosen g c)

/-- **Filling twice is filling once**, where all values settle. -/
theorem Fills.eq_of_fills (h : Fills table g c c') (h' : Fills table g c' c'')
    (hsettles : ∀ s ∈ table, s.Settles g c) : c'' = c' := by
  have hget : ∀ s ∈ table, s.get c'' = s.get c' := by
    intro s hs
    have hc := h.chosen s hs
    rw [h'.chosen s hs, chosen_of_get_eq hc, hc, hsettles s hs]
  calc
    c'' = transfer table c' c'' := h'.rest.symm
    _ = transfer table c' c' := List.foldl_ext _ _ _ fun d s hs => by rw [hget s hs]
    _ = c' := transfer_self table c'

end Setting

/-! ### The tables of the kinds -/

def Webhook.settings : List (Setting Webhook) :=
  [.http (·.httpClient) fun v c => { c with httpClient := v }]

def Email.settings : List (Setting Email) := [
  .plain "" (·.smarthost) (fun v c => { c with smarthost := v }) (·.smtpSmarthost)
    (some "SMTP smarthost"),
  .plain "" (·.sender) (fun v c => { c with sender := v }) (·.smtpFrom) (some "SMTP from"),
  .plain "" (·.hello) (fun v c => { c with hello := v }) (·.smtpHello) none,
  .plain "" (·.authUsername) (fun v c => { c with authUsername := v }) (·.smtpAuthUsername) none,
  .plain .unset (·.authPassword) (fun v c => { c with authPassword := v }) (·.smtpAuthPassword)
    none,
  .plain .unset (·.authSecret) (fun v c => { c with authSecret := v }) (·.smtpAuthSecret) none,
  .plain "" (·.authIdentity) (fun v c => { c with authIdentity := v }) (·.smtpAuthIdentity) none,
  .plain none (·.requireTls) (fun v c => { c with requireTls := v })
    (fun g => some g.smtpRequireTls) none]

def Pagerduty.settings : List (Setting Pagerduty) := [
  .http (·.httpClient) fun v c => { c with httpClient := v },
  .plain none (·.url) (fun v c => { c with url := v }) (·.pagerdutyUrl) (some "PagerDuty URL")]

def Opsgenie.settings : List (Setting Opsgenie) := [
  .http (·.httpClient) fun v c => { c with httpClient := v },
  .slashedUrl (·.apiUrl) (fun v c => { c with apiUrl := v }) (·.opsgenieApiUrl) "OpsGenie URL",
  .plain (.unset, "") (fun c => (c.apiKey, c.apiKeyFile))
    (fun v c => { c with apiKey := v.1, apiKeyFile := v.2 })
    (fun g => (g.opsgenieApiKey, g.opsgenieApiKeyFile)) (some "OpsGenie API key")]

def Wechat.settings : List (Setting Wechat) := [
  .http (·.httpClient) fun v c => { c with httpClient := v },
  .slashedUrl (·.apiUrl) (fun v c => { c with apiUrl := v }) (·.wechatApiUrl) "WeChat URL",
  .plain .unset (·.apiSecret) (fun v c => { c with apiSecret := v }) (·.wechatApiSecret)
    (some "WeChat API secret"),
  .plain "" (·.corpId) (fun v c => { c with corpId := v }) (·.wechatApiCorpId)
    (some "WeChat corp ID")]

def Slack.settings : List (Setting Slack) := [
  .http (·.httpClient) fun v c => { c with httpClient := v },
  .plain (none, "") (fun c => (c.apiUrl, c.apiUrlFile))
    (fun v c => { c with apiUrl := v.1, apiUrlFile := v.2 })
    (fun g => (g.slackApiUrl, g.slackApiUrlFile)) (some "Slack API URL")]

def Victorops.settings : List (Setting Victorops) := [
  .http (·.httpClient) fun v c => { c with httpClient := v },
  .slashedUrl (·.apiUrl) (fun v c => { c with apiUrl := v }) (·.victoropsApiUrl) "VictorOps URL",
  .plain .unset (·.apiKey) (fun v c => { c with apiKey := v }) (·.victoropsApiKey)
    (some "VictorOps API key")]

def Pushover.settings : List (Setting Pushover) :=
  [.http (·.httpClient) fun v c => { c with httpClient := v }]

def Sns.settings : List (Setting Sns) :=
  [.http (·.httpClient) fun v c => { c with httpClient := v }]

/-! ### Each kind is filled by its table -/

namespace Setting

theorem some_getD_eq {β : Type} [DecidableEq β] (o : Option β) (b : β) :
    some (o.getD b) = if o = none then some b else o := by
  cases o <;> rfl

theorem or_eq {β : Type} [DecidableEq β] (o o' : Option β) :
    o.or o' = if o = none then o' else o := by
  cases o <;> rfl

variable {α V : Type} [DecidableEq V] {g : GlobalConfig} {c : α}

@[simp] theorem settles_plain {unset : V} {get : α → V} {set : V → α → α}
    {ofGlobal : GlobalConfig → V} {required : Option String} {set_get : ∀ c, set (get c) c = c} :
    (plain unset get set ofGlobal required set_get).Settles g c :=
  rfl

@[simp] theorem settles_http {get : α → Option HttpClient} {set : Option HttpClient → α → α}
    {set_get : ∀ c, set (get c) c = c} : (http get set set_get).Settles g c :=
  rfl

theorem settles_slashedUrl {get : α → Option Url} {set : Option Url → α → α}
    {ofGlobal : GlobalConfig → Option Url} {name : String} {set_get : ∀ c, set (get c) c = c}
    (h : ∀ u, (get c).or (ofGlobal g) = some u → u.TakesSlash) :
    (slashedUrl get set ofGlobal name set_get).Settles g c := by
  rw [or_eq] at h
  exact Url.map_withTrailingSlash_idem h

end Setting

theorem Secret.isUnset_iff {s : Secret} : s.isUnset = true ↔ s = unset := by
  rw [isUnset, beq_iff_eq]
  constructor
  · intro h
    exact congrArg Secret.mk h
  · intro h
    exact congrArg Secret.value h

theorem Secret.orElse_eq (s default : Secret) :
    s.orElse default = if s = unset then default else s :=
  if_congr isUnset_iff rfl rfl

theorem Opsgenie.lacksKey_iff {c : Opsgenie} :
    c.lacksKey = true ↔ c.apiKey = .unset ∧ c.apiKeyFile = "" := by
  rw [lacksKey, Bool.and_eq_true, Secret.isUnset_iff, beq_iff_eq]

theorem Slack.lacksUrl_iff {c : Slack} :
    c.lacksUrl = true ↔ c.apiUrl = none ∧ c.apiUrlFile = "" := by
  rw [lacksUrl, Bool.and_eq_true, Option.isNone_iff_eq_none, beq_iff_eq]

section

open Setting

variable {g : GlobalConfig}

theorem Webhook.fills_filled (c : Webhook) : Fills settings g c (c.filled g) where
  chosen := by simp [settings, http, plain, chosen, filled, some_getD_eq]
  rest := rfl

theorem Email.fills_filled (c : Email) : Fills settings g c (c.filled g) where
  chosen := by
    simp [settings, plain, chosen, filled, Text.orElse, Secret.orElse_eq, some_getD_eq]
  rest := by simp only [transfer, settings, plain, List.foldl_cons, List.foldl_nil, filled]

theorem Pagerduty.fills_filled (c : Pagerduty) : Fills settings g c (c.filled g) where
  chosen := by simp [settings, http, plain, chosen, filled, some_getD_eq, or_eq]
  rest := rfl

theorem Opsgenie.fills_filled (c : Opsgenie) : Fills settings g c (c.filled g) where
  chosen := by
    simp [settings, http, plain, slashedUrl, chosen, filled, some_getD_eq, or_eq, lacksKey_iff,
      ← apply_ite₂ Prod.mk]
  rest := rfl

theorem Wechat.fills_filled (c : Wechat) : Fills settings g c (c.filled g) where
  chosen := by
    simp [settings, http, plain, slashedUrl, chosen, filled, some_getD_eq, or_eq, Text.orElse,
      Secret.orElse_eq]
  rest := rfl

theorem Slack.fills_filled (c : Slack) : Fills settings g c (c.filled g) where
  chosen := by
    simp [settings, http, plain, chosen, filled, some_getD_eq, lacksUrl_iff, ← apply_ite₂ Prod.mk]
  rest := rfl

theorem Victorops.fills_filled (c : Victorops) : Fills settings g c (c.filled g) where
  chosen := by
    simp [settings, http, plain, slashedUrl, chosen, filled, some_getD_eq, or_eq, Secret.orElse_eq]
  rest := rfl

theorem Pushover.fills_filled (c : Pushover) : Fills settings g c (c.filled g) where
  chosen := by simp [settings, http, plain, chosen, filled, some_getD_eq]
  rest := rfl

theorem Sns.fills_filled (c : Sns) : Fills settings g c (c.filled g) where
  chosen := by simp [settings, http, plain, chosen, filled, some_getD_eq]
  rest := rfl

theorem Email.missing_eq (c : Email) : c.missing = absent settings c := by
  simp [missing, absent, settings, plain]

theorem Pagerduty.missing_eq (c : Pagerduty) : c.missing = absent settings c := by
  simp [missing, absent, settings, plain, http]

theorem Opsgenie.missing_eq (c : Opsgenie) : c.missing = absent settings c := by
  simp [missing, absent, settings, plain, http, slashedUrl, lacksKey_iff]

theorem Wechat.missing_eq (c : Wechat) : c.missing = absent settings c := by
  simp [missing, absent, settings, plain, http, slashedUrl, Secret.isUnset_iff]

theorem Slack.missing_eq (c : Slack) : c.missing = absent settings c := by
  simp [missing, absent, settings, plain, http, lacksUrl_iff]

theorem Victorops.missing_eq (c : Victorops) : c.missing = absent settings c := by
  simp [missing, absent, settings, plain, http, slashedUrl, Secret.isUnset_iff]

end

end AlertRouter
