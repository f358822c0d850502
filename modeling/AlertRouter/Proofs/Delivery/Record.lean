import AlertRouter.Delivery.Dispatcher
import Mathlib.Data.List.Chain

/-! # What is remembered about one alert and one integration

The dispatcher remembers only what it sent last.  That this is enough lies in the order of what it
sends: later updates after earlier ones, and each update as firing before as resolved (`Before`).

`Recorded` relates, for one alert and one integration, the stored alert, the record of the
dispatcher and all that has been sent.  As long as an update is stored and was the last one sent,
the record says so; when the record is lost, the alert is gone too, and its next update is newer.
One lemma for each event says that it keeps this. -/

namespace AlertRouter

namespace Delivered

/-- An earlier update, or the same one before it was resolved. -/
def Before (x y : Delivered) : Prop :=
  x.updatedAt < y.updatedAt ∨ x.updatedAt = y.updatedAt ∧ x.resolved = false ∧ y.resolved = true

theorem Before.trans {x y z : Delivered} (h : Before x y) (h' : Before y z) : Before x z := by
  unfold Before at *
  rcases h with h | ⟨h, hx, hy⟩
  · refine .inl ?_
    rcases h' with h' | ⟨h', -, -⟩
    · rw [Instant.lt_iff] at *
      omega
    · exact h' ▸ h
  · rcases h' with h' | ⟨-, hy', -⟩
    · exact .inl (h ▸ h')
    · rw [hy] at hy'
      cases hy'

instance : Trans Before Before Before := ⟨Before.trans⟩

theorem Before.ne {x y : Delivered} (h : Before x y) : x ≠ y := by
  rintro rfl
  rcases h with h | ⟨-, hfalse, htrue⟩
  · rw [Instant.lt_iff] at h
    omega
  · rw [hfalse] at htrue
    cases htrue

theorem Before.le {x y : Delivered} (h : Before x y) : x.updatedAt ≤ y.updatedAt := by
  rcases h with h | ⟨h, -, -⟩
  · rw [Instant.lt_iff] at h
    rw [Instant.le_iff]
    omega
  · rw [h]
    exact Instant.le_refl _

/-- What was sent as resolved is not followed by the same update as firing. -/
theorem Before.resolved {x y : Delivered} (h : Before x y) (heq : x.updatedAt = y.updatedAt) :
    x.resolved = false ∧ y.resolved = true := by
  rcases h with h | ⟨-, h⟩
  · rw [heq, Instant.lt_iff] at h
    omega
  · exact h

end Delivered

/-- For the alert `f` and one integration: `puts` are the alerts that were put, `times` the times of
passes, `stored` is the alert of `f` in the store, `record` what the dispatcher remembers, and
`sent` all that was sent. -/
structure Recorded (puts : List Alert) (times : List Instant) (f : Fingerprint)
    (stored : Option Alert) (record : Option Delivered) (sent : List Delivered) : Prop where
  stored_put : ∀ a, stored = some a → ∃ p ∈ puts, p.fingerprint = f ∧ p.updatedAt = a.updatedAt
  sent_put : ∀ x, sent.getLast? = some x →
    ∃ p ∈ puts, p.fingerprint = f ∧ p.updatedAt = x.updatedAt
  order : sent.IsChain Delivered.Before
  /-- If the stored update was sent, the record says as what, and a resolved one stays resolved. -/
  last : ∀ a x, stored = some a → sent.getLast? = some x → x.updatedAt < a.updatedAt ∨
    x.updatedAt = a.updatedAt ∧ record = some x ∧
      (x.resolved = true → ∃ now ∈ times, a.endsAt ≤ now)

namespace Recorded

variable {puts puts' : List Alert} {times times' : List Instant} {f : Fingerprint}
  {stored : Option Alert} {record : Option Delivered} {sent : List Delivered} {a b : Alert}

theorem empty : Recorded [] [] f none none [] where
  stored_put := by simp
  sent_put := by simp
  order := .nil
  last := by simp

theorem mono (h : Recorded puts times f stored record sent) (hputs : puts ⊆ puts')
    (htimes : times ⊆ times') : Recorded puts' times' f stored record sent := by
  refine ⟨?_, ?_, h.order, ?_⟩
  · intro a ha
    obtain ⟨p, hp, hput⟩ := h.stored_put a ha
    exact ⟨p, hputs hp, hput⟩
  · intro x hx
    obtain ⟨p, hp, hput⟩ := h.sent_put x hx
    exact ⟨p, hputs hp, hput⟩
  · intro a x ha hx
    rcases h.last a x ha hx with hlt | ⟨heq, hrecord, hresolved⟩
    · exact .inl hlt
    · refine .inr ⟨heq, hrecord, fun hr => ?_⟩
      obtain ⟨now, hnow, hend⟩ := hresolved hr
      exact ⟨now, htimes hnow, hend⟩

/-- The alert is put again, with a later time of update than ever. -/
theorem put (h : Recorded puts times f stored record sent) (hf : a.fingerprint = f)
    (hnew : ∀ p ∈ puts, p.fingerprint = f → p.updatedAt < a.updatedAt)
    (hb : b.updatedAt = a.updatedAt) :
    Recorded (puts ++ [a]) times f (some b) record sent := by
  refine ⟨?_, ?_, h.order, ?_⟩
  · rintro _ ⟨⟩
    exact ⟨a, by simp, hf, hb.symm⟩
  · intro x hx
    obtain ⟨p, hp, hput⟩ := h.sent_put x hx
    exact ⟨p, List.mem_append_left _ hp, hput⟩
  · rintro _ x ⟨⟩ hx
    obtain ⟨p, hp, hpf, hpx⟩ := h.sent_put x hx
    refine .inl ?_
    rw [hb, ← hpx]
    exact hnew p hp hpf

/-- The alert is dropped; the record is of no account from then on. -/
theorem drop (h : Recorded puts times f stored record sent) (record' : Option Delivered) :
    Recorded puts times f none record' sent where
  stored_put := by simp
  sent_put := h.sent_put
  order := h.order
  last := by simp

/-- The stored alert is sent, since the record differs from what is to be sent. -/
theorem send {now : Instant} (h : Recorded puts times f (some a) record sent)
    (hnow : now ∈ times) (hpast : ∀ t ∈ times, t ≤ now)
    (hrecord : record ≠ some ⟨a.updatedAt, a.resolvedAt now⟩) :
    Recorded puts times f (some a) (some ⟨a.updatedAt, a.resolvedAt now⟩)
      (sent ++ [⟨a.updatedAt, a.resolvedAt now⟩]) := by
  refine ⟨h.stored_put, ?_, ?_, ?_⟩
  · intro x hx
    rw [List.getLast?_concat, Option.some.injEq] at hx
    obtain ⟨p, hp, hpf, hpa⟩ := h.stored_put a rfl
    exact ⟨p, hp, hpf, by rw [hpa, ← hx]⟩
  · refine List.isChain_append.mpr ⟨h.order, .singleton _, ?_⟩
    rintro x hx _ ⟨⟩
    rcases h.last a x rfl hx with hlt | ⟨heq, rfl, hresolved⟩
    · exact .inl hlt
    · -- The record is that of the same update, so it differs in being resolved; and what is
      -- resolved once does not fire again.
      refine .inr ⟨heq, ?_⟩
      have hdiffer : x.resolved ≠ a.resolvedAt now := by
        intro hr
        refine hrecord ?_
        rw [← heq, ← hr]
      cases hx : x.resolved with
      | false =>
          rw [hx] at hdiffer
          exact ⟨rfl, by simpa using Ne.symm hdiffer⟩
      | true =>
          obtain ⟨t, ht, hend⟩ := hresolved hx
          have hresolved' : a.resolvedAt now = true := by
            unfold Alert.resolvedAt
            exact decide_eq_true (Instant.le_trans hend (hpast t ht))
          rw [hx, hresolved'] at hdiffer
          exact absurd rfl hdiffer
  · rintro _ x ⟨⟩ hx
    rw [List.getLast?_concat, Option.some.injEq] at hx
    subst hx
    refine .inr ⟨rfl, rfl, fun hr => ⟨now, hnow, ?_⟩⟩
    unfold Alert.resolvedAt at hr
    exact of_decide_eq_true hr

end Recorded

end AlertRouter
