import AlertRouter.Proofs.Config.Shown
import AlertRouter.Proofs.Route.Compile
import AlertRouter.Receiver.Basic

/-! # Receivers and routes that are written and read again

Every field of an endpoint that is left out when writing has the value of the blank of its kind, so
endpoints come back, with the placeholder in their secrets (`Webhook.reread` and its siblings).  A
receiver comes back because its endpoints do (`Receiver.reread`).

A tree of routes is written level by level, down to its depth, and read down to the depth of its
document, which is no smaller (`RouteConfig.depth_le_depth_write`).  On every level a node comes
back if its subtrees do (`RouteConfig.node_reread`), so the tree does (`RouteConfig.reread`). -/

namespace AlertRouter

/-! ### Endpoints -/

def Webhook.shown (c : Webhook) : Webhook := { c with httpClient := c.httpClient.map .shown }

def Email.shown (c : Email) : Email := { c with authPassword := .shown, authSecret := .shown }

def Pagerduty.shown (c : Pagerduty) : Pagerduty :=
  { c with httpClient := c.httpClient.map .shown, routingKey := .shown, serviceKey := .shown }

def Opsgenie.shown (c : Opsgenie) : Opsgenie :=
  { c with httpClient := c.httpClient.map .shown, apiKey := .shown }

def Wechat.shown (c : Wechat) : Wechat :=
  { c with httpClient := c.httpClient.map .shown, apiSecret := .shown }

/-- The endpoint as it is shown; this says nothing of its URL, which is shown as no URL. -/
def Slack.shown (c : Slack) : Slack := { c with httpClient := c.httpClient.map .shown }

def Victorops.shown (c : Victorops) : Victorops :=
  { c with httpClient := c.httpClient.map .shown, apiKey := .shown }

def Pushover.shown (c : Pushover) : Pushover :=
  { c with httpClient := c.httpClient.map .shown, userKey := .shown, token := .shown }

def Sns.shown (c : Sns) : Sns := { c with httpClient := c.httpClient.map .shown }

namespace Endpoint

/-- The options of its own client, if it has one. -/
def client? : Endpoint → Option HttpClient
  | webhook c => c.httpClient
  | email _ => none
  | pagerduty c => c.httpClient
  | opsgenie c => c.httpClient
  | wechat c => c.httpClient
  | slack c => c.httpClient
  | victorops c => c.httpClient
  | pushover c => c.httpClient
  | sns c => c.httpClient

/-- Where it sends to, if it has a URL of its own that is no secret. -/
def url? : Endpoint → Option Url
  | webhook c => some c.url
  | pagerduty c => c.url
  | opsgenie c => c.apiUrl
  | wechat c => c.apiUrl
  | victorops c => c.apiUrl
  | sns c => c.apiUrl
  | email _ | slack _ | pushover _ => none

/-- The URLs of the endpoint can be read, its numbers have at most 64 bits, and no URL is secret. -/
structure Readable (e : Endpoint) : Prop where
  proxy : ∀ client ∈ e.client?, ∀ u ∈ client.proxyUrl, u.ReadsBack
  url : ∀ u ∈ e.url?, u.ReadsBack
  maxAlerts : ∀ c, e = webhook c → c.maxAlerts ≤ Codec.maxNatural
  secretUrl : ∀ c, e = slack c → c.apiUrl = none

end Endpoint

namespace Webhook

variable {c : Webhook}

theorem orderly : schema.Orderly := ⟨by decide, by simp [schema]⟩

theorem reread (h : (Endpoint.webhook c).Readable) : schema.codec.reread c = .ok c.shown := by
  have hclient := HttpClient.optional_reread (o := c.httpClient) h.proxy
  have hurl := Url.reread (h.url c.url rfl)
  have hmax := Codec.natural_reread (h.maxAlerts c rfl)
  rw [Schema.codec_reread orderly]
  simp [Schema.reread, schema, hclient, hurl, hmax, Except.ok_map, shown]

end Webhook

namespace Email

variable {c : Email}

theorem orderly : schema.Orderly := ⟨by decide, by simp [schema]⟩

theorem reread : schema.codec.reread c = .ok c.shown := by
  rw [Schema.codec_reread orderly]
  simp [Schema.reread, schema, Except.ok_map, shown]

end Email

namespace Pagerduty

variable {c : Pagerduty}

theorem orderly : schema.Orderly := ⟨by decide, by simp [schema]⟩

theorem reread (h : (Endpoint.pagerduty c).Readable) : schema.codec.reread c = .ok c.shown := by
  have hclient := HttpClient.optional_reread (o := c.httpClient) h.proxy
  have hurl := Url.optional_reread (o := c.url) h.url
  rw [Schema.codec_reread orderly]
  simp [Schema.reread, schema, hclient, hurl, Except.ok_map, shown]

end Pagerduty

namespace Opsgenie

variable {c : Opsgenie}

theorem orderly : schema.Orderly := ⟨by decide, by simp [schema]⟩

theorem reread (h : (Endpoint.opsgenie c).Readable) : schema.codec.reread c = .ok c.shown := by
  have hclient := HttpClient.optional_reread (o := c.httpClient) h.proxy
  have hurl := Url.optional_reread (o := c.apiUrl) h.url
  rw [Schema.codec_reread orderly]
  simp [Schema.reread, schema, hclient, hurl, Except.ok_map, shown]

end Opsgenie

namespace Wechat

variable {c : Wechat}

theorem orderly : schema.Orderly := ⟨by decide, by simp [schema]⟩

theorem reread (h : (Endpoint.wechat c).Readable) : schema.codec.reread c = .ok c.shown := by
  have hclient := HttpClient.optional_reread (o := c.httpClient) h.proxy
  have hurl := Url.optional_reread (o := c.apiUrl) h.url
  rw [Schema.codec_reread orderly]
  simp [Schema.reread, schema, hclient, hurl, Except.ok_map, shown]

end Wechat

namespace Slack

variable {c : Slack}

theorem orderly : schema.Orderly := ⟨by decide, by simp [schema]⟩

theorem reread (h : (Endpoint.slack c).Readable) : schema.codec.reread c = .ok c.shown := by
  have hclient := HttpClient.optional_reread (o := c.httpClient) h.proxy
  have hsecret := h.secretUrl c rfl
  rw [Schema.codec_reread orderly]
  simp [Schema.reread, schema, hclient, hsecret, Except.ok_map, shown]

end Slack

namespace Victorops

variable {c : Victorops}

theorem orderly : schema.Orderly := ⟨by decide, by simp [schema]⟩

theorem reread (h : (Endpoint.victorops c).Readable) : schema.codec.reread c = .ok c.shown := by
  have hclient := HttpClient.optional_reread (o := c.httpClient) h.proxy
  have hurl := Url.optional_reread (o := c.apiUrl) h.url
  rw [Schema.codec_reread orderly]
  simp [Schema.reread, schema, hclient, hurl, Except.ok_map, shown]

end Victorops

namespace Pushover

variable {c : Pushover}

theorem orderly : schema.Orderly := ⟨by decide, by simp [schema]⟩

theorem reread (h : (Endpoint.pushover c).Readable) : schema.codec.reread c = .ok c.shown := by
  have hclient := HttpClient.optional_reread (o := c.httpClient) h.proxy
  rw [Schema.codec_reread orderly]
  simp [Schema.reread, schema, hclient, Except.ok_map, shown]

end Pushover

namespace Sns

variable {c : Sns}

theorem orderly : schema.Orderly := ⟨by decide, by simp [schema]⟩

theorem reread (h : (Endpoint.sns c).Readable) : schema.codec.reread c = .ok c.shown := by
  have hclient := HttpClient.optional_reread (o := c.httpClient) h.proxy
  have hurl := Url.optional_reread (o := c.apiUrl) h.url
  rw [Schema.codec_reread orderly]
  simp [Schema.reread, schema, hclient, hurl, Except.ok_map, shown]

end Sns

/-! ### Receivers -/

namespace Receiver

variable {r : Receiver}

/-- The receiver as it is shown. -/
def shown (r : Receiver) : Receiver where
  name := r.name
  webhooks := r.webhooks.map .shown
  emails := r.emails.map .shown
  pagerduties := r.pagerduties.map .shown
  opsgenies := r.opsgenies.map .shown
  wechats := r.wechats.map .shown
  slacks := r.slacks.map .shown
  victoropses := r.victoropses.map .shown
  pushovers := r.pushovers.map .shown
  snses := r.snses.map .shown

theorem orderly : schema.Orderly := ⟨by decide, by simp [schema, listField]⟩

/-- The endpoints come back kind by kind, all of them and in their order. -/
theorem reread (h : ∀ e ∈ r.endpoints, e.Readable) : schema.codec.reread r = .ok r.shown := by
  simp only [endpoints, List.forall_mem_append, List.forall_mem_map] at h
  obtain ⟨⟨⟨⟨⟨⟨⟨⟨hwebhooks, -⟩, hpagerduties⟩, hopsgenies⟩, hwechats⟩, hslacks⟩, hvictoropses⟩,
    hpushovers⟩, hsnses⟩ := h
  have webhooks := Codec.list_reread fun c hc => Webhook.reread (hwebhooks c hc)
  have emails := Codec.list_reread fun c (_ : c ∈ r.emails) => Email.reread
  have pagerduties := Codec.list_reread fun c hc => Pagerduty.reread (hpagerduties c hc)
  have opsgenies := Codec.list_reread fun c hc => Opsgenie.reread (hopsgenies c hc)
  have wechats := Codec.list_reread fun c hc => Wechat.reread (hwechats c hc)
  have slacks := Codec.list_reread fun c hc => Slack.reread (hslacks c hc)
  have victoropses := Codec.list_reread fun c hc => Victorops.reread (hvictoropses c hc)
  have pushovers := Codec.list_reread fun c hc => Pushover.reread (hpushovers c hc)
  have snses := Codec.list_reread fun c hc => Sns.reread (hsnses c hc)
  rw [Schema.codec_reread orderly]
  simp [Schema.reread, schema, listField, named, webhooks, emails, pagerduties, opsgenies, wechats,
    slacks, victoropses, pushovers, snses, Except.ok_map, shown]

end Receiver

/-! ### Routes -/

namespace Tree

variable {α : Type}

theorem depth_le_depthAll {t : Tree α} {ts : List (Tree α)} (h : t ∈ ts) :
    t.depth ≤ depthAll ts := by
  induction ts with
  | nil => cases h
  | cons u ts ih =>
      rw [depthAll]
      rcases List.mem_cons.mp h with rfl | h
      · exact Nat.le_max_left ..
      · exact Nat.le_trans (ih h) (Nat.le_max_right ..)

theorem depthAll_le {ts : List (Tree α)} {n : Nat} (h : ∀ t ∈ ts, t.depth ≤ n) :
    depthAll ts ≤ n := by
  induction ts with
  | nil => exact Nat.zero_le n
  | cons u ts ih =>
      obtain ⟨hu, hts⟩ := List.forall_mem_cons.mp h
      exact Nat.max_le.mpr ⟨hu, ih hts⟩

end Tree

/-- The intervals have at most 64 bits. -/
structure RouteSettings.Readable (s : RouteSettings) : Prop where
  wait : ∀ n ∈ s.groupWait, n ≤ Codec.maxNatural
  interval : ∀ n ∈ s.groupInterval, n ≤ Codec.maxNatural
  repetition : ∀ n ∈ s.repeatInterval, n ≤ Codec.maxNatural

namespace RouteConfig

/-- The codec for trees of at most `n` levels. -/
def levelCodec (n : Nat) : Codec RouteConfig := .level (fun below => (schema below).codec) n

variable {below below' : Codec RouteConfig} {s : RouteSettings} {ts : List RouteConfig} {n : Nat}

theorem orderly : (schema below).Orderly :=
  ⟨by simp [schema, setting, Field.omitting, Field.may, Field.maybe],
    by simp [schema, setting]⟩

/-- A node comes back if its subtrees do. -/
theorem node_reread (hs : s.Readable) (h : ∀ t ∈ ts, below.reread t = .ok t) :
    (schema below).codec.reread (.node s ts) = .ok (.node s ts) := by
  have hwait := Codec.optional_natural_reread hs.wait
  have hinterval := Codec.optional_natural_reread hs.interval
  have hrepetition := Codec.optional_natural_reread hs.repetition
  have hbelow := Codec.list_reread_self h
  rw [Schema.codec_reread orderly]
  simp [Schema.reread, schema, setting, default, RouteSettings.ofReceiver, Tree.value,
    Tree.setValue, Tree.children, Tree.setChildren, hwait, hinterval, hrepetition, hbelow,
    Except.ok_map]

theorem write_node_congr (h : ∀ t ∈ ts, below.write t = below'.write t) :
    (schema below).write (.node s ts) = (schema below').write (.node s ts) := by
  have hlist : below.list.write ts = below'.list.write ts :=
    congrArg Doc.list (List.map_congr_left h)
  simp only [Schema.write, Schema.writeFields, schema, List.filterMap_cons]
  simp [setting, Field.omitting, Tree.children, hlist]

theorem depth_write_node (hts : ts ≠ []) :
    (below.list.write ts).depth + 1 ≤ ((schema below).write (.node s ts)).depth := by
  have hmem : ("routes", below.list.write ts) ∈ (schema below).writeFields (.node s ts) := by
    simp [Schema.writeFields, schema, setting, Field.omitting, Field.may, Field.maybe,
      Tree.children, hts]
  exact Nat.succ_le_succ (Doc.depth_le_depthFields hmem)

variable {t : RouteConfig}

/-- A tree is written in the same way at all levels from its own on. -/
theorem write_level_eq {m n : Nat} (hm : t.depth ≤ m) (hn : t.depth ≤ n) :
    (levelCodec m).write t = (levelCodec n).write t := by
  induction m generalizing n t with
  | zero =>
      obtain ⟨s, ts⟩ := t
      exact absurd hm (Nat.not_succ_le_zero _)
  | succ m ih =>
      obtain ⟨s, ts⟩ := t
      cases n with
      | zero => exact absurd hn (Nat.not_succ_le_zero _)
      | succ n =>
          refine write_node_congr fun u hu => ?_
          have hdepth := Tree.depth_le_depthAll hu
          exact ih (Nat.le_trans hdepth (Nat.le_of_succ_le_succ hm))
            (Nat.le_trans hdepth (Nat.le_of_succ_le_succ hn))

theorem depth_le_depth_write (hn : t.depth ≤ n) : t.depth ≤ ((levelCodec n).write t).depth := by
  induction n generalizing t with
  | zero =>
      obtain ⟨s, ts⟩ := t
      exact absurd hn (Nat.not_succ_le_zero _)
  | succ n ih =>
      obtain ⟨s, ts⟩ := t
      rw [Tree.depth]
      by_cases hts : ts = []
      · subst hts
        exact Doc.one_le_depth _
      · refine Nat.le_trans (Nat.succ_le_succ ?_) (depth_write_node hts)
        refine Nat.le_succ_of_le (Tree.depthAll_le fun u hu => ?_)
        have hbelow := ih (Nat.le_trans (Tree.depth_le_depthAll hu) (Nat.le_of_succ_le_succ hn))
        exact Nat.le_trans hbelow (Doc.depth_le_depthItems (List.mem_map_of_mem hu))

theorem level_reread (h : ∀ s ∈ t.toList, s.Readable) (hn : t.depth ≤ n) :
    (levelCodec n).reread t = .ok t := by
  induction n generalizing t with
  | zero =>
      obtain ⟨s, ts⟩ := t
      exact absurd hn (Nat.not_succ_le_zero _)
  | succ n ih =>
      obtain ⟨s, ts⟩ := t
      refine node_reread (h s (Tree.mem_toList_iff.mpr (.inl rfl))) fun u hu => ?_
      refine ih (fun s' hs' => h s' (Tree.mem_toList_iff.mpr (.inr ⟨u, hu, hs'⟩))) ?_
      exact Nat.le_trans (Tree.depth_le_depthAll hu) (Nat.le_of_succ_le_succ hn)

/-- A tree of routes comes back, whatever its depth. -/
theorem reread (h : ∀ s ∈ t.toList, s.Readable) : codec.reread t = .ok t :=
  Codec.nested_reread (fun _ hn => write_level_eq hn (Nat.le_refl _))
    (depth_le_depth_write (Nat.le_refl _)) fun _ hn => level_reread h hn

end RouteConfig

/-- **Receivers and trees of routes come back when they are written and read again**: a receiver
with the placeholder in its secrets, which leaves all of its endpoints, their settings and their
order, and a tree as it was. -/
theorem Config.parts_reread {r : Receiver} {t : RouteConfig} (hr : ∀ e ∈ r.endpoints, e.Readable)
    (ht : ∀ s ∈ t.toList, s.Readable) :
    Receiver.schema.codec.reread r = .ok r.shown ∧ RouteConfig.codec.reread t = .ok t :=
  ⟨Receiver.reread hr, RouteConfig.reread ht⟩

/-- A receiver with settings that are not those of the blanks. -/
def Receiver.onCall : Receiver :=
  { named "team" with
    webhooks :=
      [⟨false, some ⟨some ⟨"hunter2"⟩, none, false, false⟩, GlobalConfig.https "a.io" [""], 7⟩]
    pagerduties := [⟨false, none, .unset, ⟨"key"⟩, none, "", "info"⟩]
    slacks := [⟨true, none, none, "/run/url", "", "", "", ""⟩] }

/-- A tree with a route below its root. -/
def RouteConfig.onCall : RouteConfig :=
  .node { RouteSettings.ofReceiver "team" with groupWait := some 30 }
    [.node { RouteSettings.ofReceiver "" with matchers := ["a=b", "c=~d"], continues := true } []]

theorem Receiver.onCall_readable : ∀ e ∈ onCall.endpoints, e.Readable := by
  intro e he
  simp only [onCall, named, endpoints, List.map_cons, List.map_nil, List.append_nil,
    List.nil_append, List.cons_append, List.mem_cons, List.not_mem_nil, or_false] at he
  obtain rfl | rfl | rfl := he
  · refine ⟨?_, ?_, ?_, ?_⟩
    · rintro client ⟨⟩ u ⟨⟩
    · rintro u ⟨⟩
      rfl
    · rintro c ⟨⟩
      decide
    · rintro c ⟨⟩
  · constructor <;> rintro x ⟨⟩
  · constructor <;> rintro x ⟨⟩
    rfl

theorem RouteConfig.onCall_readable : ∀ s ∈ onCall.toList, s.Readable := by
  intro s hs
  simp only [onCall, Tree.toList, Tree.toListAll, List.append_nil, List.mem_cons,
    List.not_mem_nil, or_false] at hs
  obtain rfl | rfl := hs
  · constructor <;> rintro n ⟨⟩
    decide
  · constructor <;> rintro n ⟨⟩

/-- The number of alerts, the switches, the severity and the file are not those of the blanks. -/
theorem Config.parts_reread_onCall :
    Receiver.schema.codec.reread .onCall = .ok
      { Receiver.onCall with
        webhooks :=
          [⟨false, some ⟨some .shown, none, false, false⟩, GlobalConfig.https "a.io" [""], 7⟩]
        pagerduties := [⟨false, none, .shown, .shown, none, "", "info"⟩] } ∧
      RouteConfig.codec.reread .onCall = .ok .onCall :=
  parts_reread Receiver.onCall_readable RouteConfig.onCall_readable

end AlertRouter
