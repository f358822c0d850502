import AlertRouter.Proofs.Secret.Masked
import AlertRouter.Status
import Mathlib.Data.List.Basic

/-! # What is written of secrets

A secret is written as a placeholder, so what is written of a masked value is what is written of the
value: its codec is `Blind` to the mask.  Parts of which this holds make a whole of which it holds
(`Schema.blind_codec`).  In the end the document and the text of a configuration do not depend on
its secrets (`Config.write_masked`, `Config.yaml_masked`), and neither does the status of an
instance (`Status.doc_masked`). -/

namespace AlertRouter

/-! ### Codecs -/

namespace Codec

variable {α : Type} {c : Codec α} {mask : α → α}

/-- The codec writes masked values like the values themselves. -/
def Blind (c : Codec α) (mask : α → α) : Prop := ∀ x, c.write (mask x) = c.write x

@[simp] theorem Blind.optional (h : c.Blind mask) (x : Option α) :
    c.optional.write (x.map mask) = c.optional.write x := by
  cases x with
  | none => rfl
  | some x => exact h x

@[simp] theorem Blind.list (h : c.Blind mask) (xs : List α) :
    c.list.write (xs.map mask) = c.list.write xs := by
  have hitems : (xs.map mask).map c.write = xs.map c.write := by
    rw [List.map_map]
    exact List.map_congr_left fun x _ => h x
  exact congrArg Doc.list hitems

end Codec

namespace Field

variable {σ α : Type} {name : String} {c : Codec α} {get : σ → α} {set : α → σ → σ} {x : σ}

@[simp] theorem must_write : (must name c get set).write x = some (c.write (get x)) := rfl

@[simp] theorem may_write : (may name c get set).write x = some (c.write (get x)) := rfl

@[simp] theorem omitting_write {skip : α → Bool} :
    (omitting skip name c get set).write x =
      if skip (get x) then none else some (c.write (get x)) := rfl

@[simp] theorem maybe_write {get : σ → Option α} {set : Option α → σ → σ} :
    (maybe name c get set).write x =
      if (get x).isNone then none else some (c.optional.write (get x)) := rfl

end Field

/-- A record is written field by field. -/
theorem Schema.blind_codec {σ : Type} {s : Schema σ} {mask : σ → σ}
    (h : ∀ f ∈ s.fields, ∀ x, f.write (mask x) = f.write x) : s.codec.Blind mask := by
  intro x
  have hfields : s.writeFields (mask x) = s.writeFields x := by
    unfold writeFields
    exact List.filterMap_congr fun f hf => by rw [h f hf]
  exact congrArg Doc.record hfields

/-! ### Secrets and settings -/

@[simp] theorem Secret.write_masked (s : Secret) : codec.write s.masked = codec.write s := rfl

@[simp] theorem Secret.blind : codec.Blind masked := write_masked

@[simp] theorem SecretUrl.blind : codec.Blind masked := fun _ => rfl

@[simp] theorem HttpClient.blind : schema.codec.Blind masked :=
  Schema.blind_codec (by simp [schema, masked])

@[simp] theorem HttpClient.write_masked (c : HttpClient) :
    schema.codec.write c.masked = schema.codec.write c := blind c

theorem GlobalConfig.blind : schema.codec.Blind masked :=
  Schema.blind_codec (by simp [schema, masked])

/-! ### Endpoints -/

@[simp] theorem Webhook.blind : schema.codec.Blind masked :=
  Schema.blind_codec (by simp [schema, masked])

@[simp] theorem Email.blind : schema.codec.Blind masked :=
  Schema.blind_codec (by simp [schema, masked])

@[simp] theorem Pagerduty.blind : schema.codec.Blind masked :=
  Schema.blind_codec (by simp [schema, masked])

@[simp] theorem Opsgenie.blind : schema.codec.Blind masked :=
  Schema.blind_codec (by simp [schema, masked])

@[simp] theorem Wechat.blind : schema.codec.Blind masked :=
  Schema.blind_codec (by simp [schema, masked])

@[simp] theorem Slack.blind : schema.codec.Blind masked :=
  Schema.blind_codec (by simp [schema, masked])

@[simp] theorem Victorops.blind : schema.codec.Blind masked :=
  Schema.blind_codec (by simp [schema, masked])

@[simp] theorem Pushover.blind : schema.codec.Blind masked :=
  Schema.blind_codec (by simp [schema, masked])

@[simp] theorem Sns.blind : schema.codec.Blind masked :=
  Schema.blind_codec (by simp [schema, masked])

/-! ### Receivers and configurations -/

theorem Receiver.blind : schema.codec.Blind masked :=
  Schema.blind_codec (by simp [schema, masked, listField])

theorem Receiver.write_masked (r : Receiver) : schema.write r.masked = schema.write r := blind r

namespace Config

/-- **A configuration is written without its secrets.** -/
theorem write_masked (c : Config) : schema.write c.masked = schema.write c := by
  have hglobal (c : Config) := GlobalConfig.blind c.global
  have hreceivers (c : Config) := Receiver.blind.list c.receivers
  have hblind : schema.codec.Blind masked :=
    Schema.blind_codec (by simpa [schema, masked, hreceivers] using hglobal)
  exact hblind c

theorem yaml_masked (c : Config) : c.masked.yaml = c.yaml := by
  rw [yaml, yaml, write_masked]

end Config

theorem Status.doc_masked (c : Config) (started : Instant) (cluster : Option Cluster) :
    (Status.mk c.masked started cluster).doc = (Status.mk c started cluster).doc := by
  simp only [doc, Config.yaml_masked, Config.write_masked]

end AlertRouter
