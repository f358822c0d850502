import AlertRouter.Proofs.Outcome
import AlertRouter.Proofs.Receiver.Setting
import Mathlib.Data.List.Forall2
import Mathlib.Data.Option.Basic

/-! # Receivers are filled from the global settings

Filling a receiver fills each of its endpoints by the table of its kind (`Endpoint.Fills`), and this
is done to all of them, whatever is wrong with some.  The URLs of three kinds are made to end in a
slash besides (`Url.Slashed`).

The filled receiver is usable if no endpoint lacks a required setting and none has a fault, and else
the error is that of the first endpoint that is refused (`Endpoint.refusal?`).  A receiver that has
been filled is not changed by filling it again.  `Receiver.Resolution` has all of this. -/

namespace AlertRouter

/-! ### Endpoints -/

namespace Endpoint

/-- The second endpoint is the first one, filled by the table of its kind. -/
inductive Fills (g : GlobalConfig) : Endpoint → Endpoint → Prop where
  | webhook {c c' : Webhook} (h : Setting.Fills Webhook.settings g c c') :
      Fills g (webhook c) (webhook c')
  | email {c c' : Email} (h : Setting.Fills Email.settings g c c') : Fills g (email c) (email c')
  | pagerduty {c c' : Pagerduty} (h : Setting.Fills Pagerduty.settings g c c') :
      Fills g (pagerduty c) (pagerduty c')
  | opsgenie {c c' : Opsgenie} (h : Setting.Fills Opsgenie.settings g c c') :
      Fills g (opsgenie c) (opsgenie c')
  | wechat {c c' : Wechat} (h : Setting.Fills Wechat.settings g c c') :
      Fills g (wechat c) (wechat c')
  | slack {c c' : Slack} (h : Setting.Fills Slack.settings g c c') : Fills g (slack c) (slack c')
  | victorops {c c' : Victorops} (h : Setting.Fills Victorops.settings g c c') :
      Fills g (victorops c) (victorops c')
  | pushover {c c' : Pushover} (h : Setting.Fills Pushover.settings g c c') :
      Fills g (pushover c) (pushover c')
  | sns {c c' : Sns} (h : Setting.Fills Sns.settings g c c') : Fills g (sns c) (sns c')

/-- The required settings that neither the endpoint nor the global configuration has. -/
def lacking (g : GlobalConfig) : Endpoint → List String
  | webhook c => Setting.lacking Webhook.settings g c
  | email c => Setting.lacking Email.settings g c
  | pagerduty c => Setting.lacking Pagerduty.settings g c
  | opsgenie c => Setting.lacking Opsgenie.settings g c
  | wechat c => Setting.lacking Wechat.settings g c
  | slack c => Setting.lacking Slack.settings g c
  | victorops c => Setting.lacking Victorops.settings g c
  | pushover c => Setting.lacking Pushover.settings g c
  | sns c => Setting.lacking Sns.settings g c

/-- The URL of the API, for the kinds whose URL ends in a slash. -/
def apiUrl? : Endpoint → Option Url
  | opsgenie c => c.apiUrl
  | wechat c => c.apiUrl
  | victorops c => c.apiUrl
  | _ => none

/-- The global URL for such a kind. -/
def globalUrl? (g : GlobalConfig) : Endpoint → Option Url
  | opsgenie _ => g.opsgenieApiUrl
  | wechat _ => g.wechatApiUrl
  | victorops _ => g.victoropsApiUrl
  | _ => none

/-- The URL that is chosen for the endpoint, before anything is appended. -/
def chosenUrl? (g : GlobalConfig) (e : Endpoint) : Option Url := e.apiUrl?.or (e.globalUrl? g)

/-- A slash can be appended to the URL, if there is one. -/
def TakesSlash (g : GlobalConfig) (e : Endpoint) : Prop :=
  ∀ u, e.chosenUrl? g = some u → u.TakesSlash

/-- Why the endpoint cannot be used: the first required setting that is nowhere to be found, or else
what is wrong with the filled endpoint. -/
def refusal? (g : GlobalConfig) (e : Endpoint) : Option AlertError :=
  match e.lacking g with
  | setting :: _ => some (.missingSetting e.kind setting)
  | [] => (e.filled g).fault?.map fun fault => .badInput (.endpoint e.kind fault)

variable {g : GlobalConfig} {e : Endpoint}

theorem fills_filled (g : GlobalConfig) (e : Endpoint) : Fills g e (e.filled g) := by
  cases e with
  | webhook c => exact .webhook c.fills_filled
  | email c => exact .email c.fills_filled
  | pagerduty c => exact .pagerduty c.fills_filled
  | opsgenie c => exact .opsgenie c.fills_filled
  | wechat c => exact .wechat c.fills_filled
  | slack c => exact .slack c.fills_filled
  | victorops c => exact .victorops c.fills_filled
  | pushover c => exact .pushover c.fills_filled
  | sns c => exact .sns c.fills_filled

@[simp] theorem kind_filled : (e.filled g).kind = e.kind := by
  cases e <;> rfl

theorem apiUrl?_filled : (e.filled g).apiUrl? = (e.chosenUrl? g).map Url.withTrailingSlash := by
  cases e <;> rfl

theorem missing_filled : (e.filled g).missing = e.lacking g := by
  cases e with
  | webhook c => exact c.fills_filled.absent_eq
  | email c => exact (c.filled g).missing_eq.trans c.fills_filled.absent_eq
  | pagerduty c => exact (c.filled g).missing_eq.trans c.fills_filled.absent_eq
  | opsgenie c => exact (c.filled g).missing_eq.trans c.fills_filled.absent_eq
  | wechat c => exact (c.filled g).missing_eq.trans c.fills_filled.absent_eq
  | slack c => exact (c.filled g).missing_eq.trans c.fills_filled.absent_eq
  | victorops c => exact (c.filled g).missing_eq.trans c.fills_filled.absent_eq
  | pushover c => exact c.fills_filled.absent_eq
  | sns c => exact c.fills_filled.absent_eq

/-- Filling an endpoint twice is filling it once. -/
theorem filled_filled (h : e.TakesSlash g) : (e.filled g).filled g = e.filled g := by
  cases e with
  | webhook c =>
      refine congrArg webhook (c.fills_filled.eq_of_fills (c.filled g).fills_filled ?_)
      simp [Webhook.settings]
  | email c =>
      refine congrArg email (c.fills_filled.eq_of_fills (c.filled g).fills_filled ?_)
      simp [Email.settings]
  | pagerduty c =>
      refine congrArg pagerduty (c.fills_filled.eq_of_fills (c.filled g).fills_filled ?_)
      simp [Pagerduty.settings]
  | opsgenie c =>
      refine congrArg opsgenie (c.fills_filled.eq_of_fills (c.filled g).fills_filled ?_)
      -- The second setting of the table is the URL, the only one that `h` is needed for.
      refine List.forall_mem_cons.mpr
        ⟨rfl, List.forall_mem_cons.mpr ⟨Setting.settles_slashedUrl h, ?_⟩⟩
      simp
  | wechat c =>
      refine congrArg wechat (c.fills_filled.eq_of_fills (c.filled g).fills_filled ?_)
      refine List.forall_mem_cons.mpr
        ⟨rfl, List.forall_mem_cons.mpr ⟨Setting.settles_slashedUrl h, ?_⟩⟩
      simp
  | slack c =>
      refine congrArg slack (c.fills_filled.eq_of_fills (c.filled g).fills_filled ?_)
      simp [Slack.settings]
  | victorops c =>
      refine congrArg victorops (c.fills_filled.eq_of_fills (c.filled g).fills_filled ?_)
      refine List.forall_mem_cons.mpr
        ⟨rfl, List.forall_mem_cons.mpr ⟨Setting.settles_slashedUrl h, ?_⟩⟩
      simp
  | pushover c =>
      refine congrArg pushover (c.fills_filled.eq_of_fills (c.filled g).fills_filled ?_)
      simp [Pushover.settings]
  | sns c =>
      refine congrArg sns (c.fills_filled.eq_of_fills (c.filled g).fills_filled ?_)
      simp [Sns.settings]

/-- An endpoint is checked once it has been filled, for what it lacks before anything else. -/
theorem check_filled (g : GlobalConfig) (e : Endpoint) :
    ((e.filled g).checkComplete.bind fun _ => (e.filled g).check) =
      match e.refusal? g with
      | some error => .error error
      | none => .ok () := by
  unfold checkComplete check refusal?
  rw [missing_filled, kind_filled]
  cases e.lacking g with
  | cons setting settings => rfl
  | nil =>
      cases (e.filled g).fault? with
      | none => rfl
      | some fault => rfl

theorem check_filled_eq_ok_iff :
    ((e.filled g).checkComplete.bind fun _ => (e.filled g).check) = .ok () ↔
      e.refusal? g = none := by
  rw [check_filled]
  cases e.refusal? g with
  | none => exact ⟨fun _ => rfl, fun _ => rfl⟩
  | some error => exact ⟨nofun, nofun⟩

theorem check_filled_eq_error_iff {error : AlertError} :
    ((e.filled g).checkComplete.bind fun _ => (e.filled g).check) = .error error ↔
      e.refusal? g = some error := by
  rw [check_filled]
  cases e.refusal? g with
  | none => exact ⟨nofun, nofun⟩
  | some error' => rw [Except.error.injEq, Option.some.injEq]

theorem refusal?_eq_none_iff :
    e.refusal? g = none ↔ e.lacking g = [] ∧ (e.filled g).check = .ok () := by
  unfold refusal? check
  rw [kind_filled]
  cases e.lacking g with
  | cons setting settings => exact ⟨nofun, nofun⟩
  | nil =>
      cases (e.filled g).fault? with
      | none => exact ⟨fun _ => ⟨rfl, rfl⟩, fun _ => rfl⟩
      | some fault => exact ⟨nofun, nofun⟩

end Endpoint

/-! ### Receivers -/

namespace Receiver

variable {g : GlobalConfig} {r r' : Receiver}

/-- Filling a receiver twice is filling it once. -/
theorem filled_filled (h : ∀ e ∈ r.endpoints, e.TakesSlash g) :
    (r.filled g).filled g = r.filled g := by
  have hfilled (e : Endpoint) (he : e ∈ r.endpoints) : (e.filled g).filled g = e.filled g :=
    Endpoint.filled_filled (h e he)
  simp only [filled, List.map_map, mk.injEq, true_and]
  -- A receiver has its endpoints in one list for each kind.
  refine ⟨?_, ?_, ?_, ?_, ?_, ?_, ?_, ?_, ?_⟩ <;> refine List.map_congr_left fun c hc => ?_
  · exact Endpoint.webhook.inj (hfilled (.webhook c) (by simp [endpoints, hc]))
  · exact Endpoint.email.inj (hfilled (.email c) (by simp [endpoints, hc]))
  · exact Endpoint.pagerduty.inj (hfilled (.pagerduty c) (by simp [endpoints, hc]))
  · exact Endpoint.opsgenie.inj (hfilled (.opsgenie c) (by simp [endpoints, hc]))
  · exact Endpoint.wechat.inj (hfilled (.wechat c) (by simp [endpoints, hc]))
  · exact Endpoint.slack.inj (hfilled (.slack c) (by simp [endpoints, hc]))
  · exact Endpoint.victorops.inj (hfilled (.victorops c) (by simp [endpoints, hc]))
  · exact Endpoint.pushover.inj (hfilled (.pushover c) (by simp [endpoints, hc]))
  · exact Endpoint.sns.inj (hfilled (.sns c) (by simp [endpoints, hc]))

theorem fill_fst_eq_ok_iff :
    (r.fill g).1 = .ok () ↔ ∀ e ∈ r.endpoints, e.refusal? g = none := by
  unfold fill
  rw [Except.forM_eq_ok_iff, endpoints_filled, List.forall_mem_map]
  simp only [Endpoint.check_filled_eq_ok_iff]

theorem fill_fst_eq_error_iff {error : AlertError} :
    (r.fill g).1 = .error error ↔ ∃ before e after, r.endpoints = before ++ e :: after ∧
      (∀ d ∈ before, d.refusal? g = none) ∧ e.refusal? g = some error := by
  unfold fill
  rw [endpoints_filled, List.forM_eq_forM, List.forM_map, ← List.forM_eq_forM,
    Except.forM_eq_error_iff]
  simp only [Endpoint.check_filled_eq_ok_iff, Endpoint.check_filled_eq_error_iff]

theorem resolve_eq_ok_iff :
    r.resolve g = .ok r' ↔ (∀ e ∈ r.endpoints, e.refusal? g = none) ∧ r.filled g = r' := by
  rw [resolve, Except.map_eq_ok_iff]
  constructor
  · rintro ⟨⟨⟩, hok, hfilled⟩
    exact ⟨fill_fst_eq_ok_iff.mp hok, hfilled⟩
  · rintro ⟨hok, hfilled⟩
    exact ⟨(), fill_fst_eq_ok_iff.mpr hok, hfilled⟩

theorem resolve_eq_error_iff {error : AlertError} :
    r.resolve g = .error error ↔ (r.fill g).1 = .error error := by
  unfold resolve
  cases (r.fill g).1 with
  | ok u => exact ⟨nofun, nofun⟩
  | error error' =>
      show Except.error error' = Except.error error ↔ _
      rw [Except.error.injEq, Except.error.injEq]

/-- The endpoints of a filled receiver are those of the receiver, each filled. -/
theorem forall₂_fill {R : Endpoint → Endpoint → Prop} (h : ∀ e, R e (e.filled g)) :
    List.Forall₂ R r.endpoints (r.fill g).2.endpoints := by
  show List.Forall₂ R r.endpoints (r.filled g).endpoints
  rw [endpoints_filled, List.forall₂_map_right_iff]
  exact List.forall₂_same.mpr fun e _ => h e

/-- What becomes of a receiver and the global settings. -/
structure Resolution (g : GlobalConfig) (r : Receiver) : Prop where
  name : (r.fill g).2.name = r.name
  /-- All endpoints are filled, whatever the outcome is. -/
  filled : List.Forall₂ (Endpoint.Fills g) r.endpoints (r.fill g).2.endpoints
  slashed : List.Forall₂
    (fun e e' => Option.Rel (fun u u' => u.TakesSlash → u.Slashed u') (e.chosenUrl? g) e'.apiUrl?)
    r.endpoints (r.fill g).2.endpoints
  succeeds : (∃ r', r.resolve g = .ok r') ↔
    (∀ e ∈ r.endpoints, e.lacking g = []) ∧ ∀ e ∈ (r.fill g).2.endpoints, e.check = .ok ()
  result : ∀ r', r.resolve g = .ok r' → r' = (r.fill g).2
  fails : ∀ error, r.resolve g = .error error ↔ ∃ before e after,
    r.endpoints = before ++ e :: after ∧ (∀ d ∈ before, d.refusal? g = none) ∧
      e.refusal? g = some error
  again : ∀ r', r.resolve g = .ok r' → (∀ e ∈ r.endpoints, e.TakesSlash g) →
    r'.resolve g = .ok r'

/-- **Every receiver is filled from the global settings in full**, and used if nothing required is
missing and nothing is wrong. -/
theorem resolution (g : GlobalConfig) (r : Receiver) : r.Resolution g where
  name := rfl
  filled := forall₂_fill (Endpoint.fills_filled g)
  slashed := by
    refine forall₂_fill fun e => ?_
    rw [Endpoint.apiUrl?_filled]
    cases e.chosenUrl? g with
    | none => exact .none
    | some u => exact .some Url.slashed_withTrailingSlash
  succeeds := by
    show _ ↔ _ ∧ ∀ e ∈ (r.filled g).endpoints, e.check = .ok ()
    rw [endpoints_filled, List.forall_mem_map]
    simp only [resolve_eq_ok_iff, Endpoint.refusal?_eq_none_iff, exists_and_left, exists_eq',
      and_true, forall_and]
  result r' h := (resolve_eq_ok_iff.mp h).2.symm
  fails error := resolve_eq_error_iff.trans fill_fst_eq_error_iff
  again r' h hslash := by
    obtain ⟨-, rfl⟩ := resolve_eq_ok_iff.mp h
    have hfill : (r.filled g).fill g = r.fill g := by rw [fill, fill, filled_filled hslash]
    rwa [resolve, hfill]

/-- The key is the global one and the URL gets its slash, and that is all. -/
theorem resolution_of_victorops :
    let url (parts : List String) : Url :=
      ⟨"https", "", "", some "vo.example.com", none, .segments parts, none, none⟩
    let receiver (key : String) (parts : List String) : Receiver :=
      { named "team" with
        victoropses := [⟨true, some .initial, ⟨key⟩, some (url parts), "ops", "CRITICAL"⟩] }
    let g := { GlobalConfig.initial with victoropsApiKey := ⟨"key"⟩ }
    (receiver "" ["alert"]).resolve g = .ok (receiver "key" ["alert", ""]) ∧
      (receiver "key" ["alert", ""]).resolve g = .ok (receiver "key" ["alert", ""]) := by
  intro url receiver g
  have h := resolution g (receiver "" ["alert"])
  obtain ⟨r', hr'⟩ := h.succeeds.mpr ⟨by decide, List.forall_mem_singleton.mpr rfl⟩
  have hfilled : r' = receiver "key" ["alert", ""] := (h.result r' hr').trans (by decide +kernel)
  have hslash : ∀ e ∈ (receiver "" ["alert"]).endpoints, e.TakesSlash g :=
    List.forall_mem_singleton.mpr fun u hu => by cases hu; decide
  have hagain := h.again r' hr' hslash
  rw [hfilled] at hr' hagain
  exact ⟨hr', hagain⟩

end Receiver

end AlertRouter
