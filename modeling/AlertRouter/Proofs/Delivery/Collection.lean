import AlertRouter.Proofs.Delivery.Once
import AlertRouter.Proofs.Time.Back

/-! # Dropping alerts

An alert is dropped once it has ended a retention ago.  The end up to which alerts are dropped is
`now` moved back by the retention, which is at most the longest duration; if that is beyond the
calendar, all alerts are kept.

What is dropped at some time is also dropped at a later one, as long as the limit does not move back
(`Instant.sub?_mono`).  So dropping twice is dropping once at the later time: the store loses the
same alerts (`AlertStore.collectBy_collectBy`), and what is remembered about them is forgotten, in
one go or in two (`Marker.foldl_forget_congr`, `Dispatcher.forget_forget`). -/

namespace AlertRouter

/-! ### Stores -/

namespace AlertStore

variable {s : AlertStore} {limit limit' : Option Instant} {a : Alert} {f : Fingerprint}

theorem isDue_iff : isDue limit a = true ↔ ∃ t, limit = some t ∧ a.endsAt ≤ t := by
  cases limit with
  | none => simp [isDue]
  | some t => simp [isDue]

theorem mem_dueBy_iff_ended : f ∈ s.dueBy limit ↔
    ∃ a t, s.get? f = some a ∧ limit = some t ∧ a.endsAt ≤ t := by
  simp only [mem_dueBy_iff, isDue_iff]
  constructor
  · rintro ⟨a, ha, t, ht, hends⟩
    exact ⟨a, t, ha, ht, hends⟩
  · rintro ⟨a, t, ha, ht, hends⟩
    exact ⟨a, ha, t, ht, hends⟩

theorem nodup_dueBy (s : AlertStore) (limit : Option Instant) : (s.dueBy limit).Nodup :=
  SortedMap.nodup_keys _

/-- The store keeps what is not dropped. -/
theorem get?_collectBy_eq_some_iff :
    (s.collectBy limit).get? f = some a ↔ s.get? f = some a ∧ f ∉ s.dueBy limit := by
  rw [get?_collectBy, Option.filter_eq_some_iff, mem_dueBy_iff]
  constructor
  · rintro ⟨ha, hkept⟩
    refine ⟨ha, ?_⟩
    rintro ⟨b, hb, hdue⟩
    cases ha.symm.trans hb
    simp [hdue] at hkept
  · rintro ⟨ha, hkept⟩
    refine ⟨ha, ?_⟩
    cases hdue : isDue limit a with
    | true => exact absurd ⟨a, ha, hdue⟩ hkept
    | false => rfl

theorem eq_of_get? {s' : AlertStore} (h : ∀ f a, s.get? f = some a ↔ s'.get? f = some a) :
    s = s' :=
  congrArg AlertStore.mk (SortedMap.ext_get? fun f => Option.ext (h f))

/-- Each alert that has ended at the latest at the limit is dropped once, and the rest is kept. -/
structure Drops (s : AlertStore) (limit : Option Instant) (gone : List Fingerprint)
    (rest : AlertStore) : Prop where
  nodup : gone.Nodup
  mem_iff : ∀ f, f ∈ gone ↔ ∃ a t, s.get? f = some a ∧ limit = some t ∧ a.endsAt ≤ t
  get?_iff : ∀ f a, rest.get? f = some a ↔ s.get? f = some a ∧ f ∉ gone

theorem drops (s : AlertStore) (limit : Option Instant) :
    s.Drops limit (s.dueBy limit) (s.collectBy limit) where
  nodup := nodup_dueBy s limit
  mem_iff _ := mem_dueBy_iff_ended
  get?_iff _ _ := get?_collectBy_eq_some_iff

theorem dueBy_none (s : AlertStore) : s.dueBy none = [] := by
  rw [List.eq_nil_iff_forall_not_mem]
  intro f hf
  obtain ⟨a, -, hdue⟩ := mem_dueBy_iff.mp hf
  cases hdue

theorem collectBy_none (s : AlertStore) : s.collectBy none = s := by
  apply eq_of_get?
  intro f a
  simp [get?_collectBy_eq_some_iff, dueBy_none]

/-- What is due by an earlier limit is due by a later one. -/
theorem mem_dueBy_mono (h : ∀ t, limit = some t → ∃ t', limit' = some t' ∧ t ≤ t')
    (hdue : f ∈ s.dueBy limit) : f ∈ s.dueBy limit' := by
  obtain ⟨a, ha, hdue⟩ := mem_dueBy_iff.mp hdue
  obtain ⟨t, ht, hends⟩ := isDue_iff.mp hdue
  obtain ⟨t', ht', hle⟩ := h t ht
  exact mem_dueBy_iff.mpr ⟨a, ha, isDue_iff.mpr ⟨t', ht', Instant.le_trans hends hle⟩⟩

theorem mem_dueBy_collectBy :
    f ∈ (s.collectBy limit).dueBy limit' ↔ f ∈ s.dueBy limit' ∧ f ∉ s.dueBy limit := by
  rw [mem_dueBy_iff, mem_dueBy_iff]
  simp only [get?_collectBy_eq_some_iff]
  constructor
  · rintro ⟨a, ⟨ha, hkept⟩, hdue⟩
    exact ⟨⟨a, ha, hdue⟩, hkept⟩
  · rintro ⟨⟨a, ha, hdue⟩, hkept⟩
    exact ⟨a, ⟨ha, hkept⟩, hdue⟩

theorem collectBy_collectBy (h : ∀ f ∈ s.dueBy limit, f ∈ s.dueBy limit') :
    (s.collectBy limit).collectBy limit' = s.collectBy limit' := by
  apply eq_of_get?
  intro f a
  rw [get?_collectBy_eq_some_iff, get?_collectBy_eq_some_iff, get?_collectBy_eq_some_iff,
    mem_dueBy_collectBy]
  constructor
  · rintro ⟨⟨ha, hkept⟩, hkept'⟩
    exact ⟨ha, fun hdue => hkept' ⟨hdue, hkept⟩⟩
  · rintro ⟨ha, hkept'⟩
    exact ⟨⟨ha, fun hdue => hkept' (h f hdue)⟩, fun hdue => hkept' hdue.1⟩

end AlertStore

/-! ### Retention and what is remembered about alerts -/

namespace Marker

theorem get?_foldl_forget {gone : List Fingerprint} {m : Marker} {f : Fingerprint}
    {status : AlertStatus} : (gone.foldl forget m).statuses.get? f = some status ↔
      m.statuses.get? f = some status ∧ f ∉ gone := by
  induction gone generalizing m with
  | nil => simp
  | cons g gone ih =>
      rw [List.foldl_cons, ih, forget, SortedMap.get?_erase]
      split
      · next h =>
          obtain rfl : g = f := Std.LawfulEqCmp.eq_of_compare h
          simp
      · next h =>
          have hne : f ≠ g := fun heq => h (by rw [heq]; exact Std.ReflCmp.compare_self)
          simp [hne]

/-- It is the alerts that count, not how often and in which order they are forgotten. -/
theorem foldl_forget_congr {gone gone' : List Fingerprint} (h : ∀ f, f ∈ gone ↔ f ∈ gone')
    (m : Marker) : gone.foldl forget m = gone'.foldl forget m := by
  apply congrArg Marker.mk (SortedMap.ext_get? fun f => Option.ext fun status => ?_)
  rw [get?_foldl_forget, get?_foldl_forget, h]

end Marker

namespace Dispatcher

theorem window_eq (nanos : Nat) : window nanos = min (nanos : Int) Instant.longest := by
  unfold window
  omega

theorem window_nonneg (nanos : Nat) : 0 ≤ window nanos := by
  rw [window_eq]
  unfold Instant.longest
  omega

theorem get?_forget {d : Dispatcher} {gone : List Fingerprint} {key : DeliveryKey} {r : Delivered} :
    (d.forget gone).delivered.get? key = some r ↔
      d.delivered.get? key = some r ∧ key.alert ∉ gone := by
  show (d.delivered.filter _).get? key = some r ↔ _
  rw [SortedMap.get?_filter, Option.filter_eq_some_iff]
  simp

theorem eq_of_get? {d d' : Dispatcher} (hsnapshot : d.snapshot = d'.snapshot)
    (hretention : d.retention = d'.retention)
    (h : ∀ key r, d.delivered.get? key = some r ↔ d'.delivered.get? key = some r) : d = d' := by
  have hdelivered : d.delivered = d'.delivered := SortedMap.ext_get? fun key => Option.ext (h key)
  cases d
  cases d'
  simp_all

theorem forget_nil (d : Dispatcher) : d.forget [] = d :=
  eq_of_get? rfl rfl fun key r => by simp [get?_forget]

/-- As with a marker, it is the alerts that count. -/
theorem forget_forget {gone first second : List Fingerprint}
    (h : ∀ f, f ∈ first ++ second ↔ f ∈ gone) (d : Dispatcher) :
    (d.forget first).forget second = d.forget gone := by
  refine eq_of_get? rfl rfl fun key r => ?_
  rw [get?_forget, get?_forget, get?_forget, ← h, List.mem_append, not_or, and_assoc]

end Dispatcher

/-! ### Collections -/

namespace Hub

/-- The hub with another retention, in nanoseconds. -/
def keeping (h : Hub) (nanos : Nat) : Hub :=
  { h with dispatcher := h.dispatcher.withRetention nanos }

variable {h : Hub} {now n₁ n₂ : Instant} {f : Fingerprint} {a : Alert}

theorem limit_keeping (h : Hub) (nanos : Nat) (now : Instant) :
    (h.keeping nanos).dispatcher.limit now = now.sub? (min (nanos : Int) Instant.longest) := by
  rw [← Dispatcher.window_eq]
  rfl

theorem mem_collect_iff : f ∈ (h.collect now).2 ↔
    ∃ a t, h.alerts.store.get? f = some a ∧ h.dispatcher.limit now = some t ∧ a.endsAt ≤ t :=
  AlertStore.mem_dueBy_iff_ended

theorem collect_of_limit_none (hlimit : h.dispatcher.limit now = none) :
    h.collect now = (h, []) := by
  unfold collect
  rw [hlimit]
  simp only [AlertStore.dueBy_none, AlertStore.collectBy_none, Dispatcher.forget_nil,
    List.foldl_nil]

/-- Of two collections the first one does nothing that the second one does not do. -/
theorem collect_collect (hmono : ∀ t₁, h.dispatcher.limit n₁ = some t₁ →
      ∃ t₂, h.dispatcher.limit n₂ = some t₂ ∧ t₁ ≤ t₂) :
    ((h.collect n₁).1.collect n₂).1 = (h.collect n₂).1 ∧
    (∀ f ∈ (h.collect n₁).2, f ∉ ((h.collect n₁).1.collect n₂).2) ∧
    ((h.collect n₁).2 ++ ((h.collect n₁).1.collect n₂).2).Perm (h.collect n₂).2 := by
  let s := h.alerts.store
  let limit₁ := h.dispatcher.limit n₁
  let limit₂ := h.dispatcher.limit n₂
  let first := s.dueBy limit₁
  let second := (s.collectBy limit₁).dueBy limit₂
  let once := s.dueBy limit₂
  -- What is dropped in the two collections is, taken together, what is dropped in the one.
  have hsub : ∀ f ∈ first, f ∈ once := fun f => AlertStore.mem_dueBy_mono hmono
  have hsecond (f : Fingerprint) : f ∈ second ↔ f ∈ once ∧ f ∉ first :=
    AlertStore.mem_dueBy_collectBy
  have hmem (f : Fingerprint) : f ∈ first ++ second ↔ f ∈ once := by
    rw [List.mem_append, hsecond]
    constructor
    · rintro (hf | ⟨hf, -⟩)
      · exact hsub f hf
      · exact hf
    · intro hf
      by_cases hfirst : f ∈ first
      · exact .inl hfirst
      · exact .inr ⟨hf, hfirst⟩
  have hdisjoint : ∀ f ∈ first, f ∉ second := fun f hf hf' => ((hsecond f).mp hf').2 hf
  refine ⟨?_, hdisjoint, ?_⟩
  · show { h with
        alerts := { h.alerts with store := (s.collectBy limit₁).collectBy limit₂ }
        marker := second.foldl Marker.forget (first.foldl Marker.forget h.marker)
        dispatcher := (h.dispatcher.forget first).forget second } = _
    rw [AlertStore.collectBy_collectBy hsub, ← List.foldl_append,
      Marker.foldl_forget_congr hmem, Dispatcher.forget_forget hmem]
    rfl
  · show (first ++ second).Perm once
    refine (List.perm_ext_iff_of_nodup ?_ (AlertStore.nodup_dueBy _ _)).mpr hmem
    refine List.nodup_append.mpr ⟨AlertStore.nodup_dueBy _ _, AlertStore.nodup_dueBy _ _, ?_⟩
    rintro f hf g hg rfl
    exact hdisjoint f hf hg

/-- What is still firing is kept. -/
theorem kept_of_firing {nanos : Nat} (hnow : now.InCalendar) (ha : h.alerts.store.get? f = some a)
    (hfiring : now < a.endsAt) : f ∉ ((h.keeping nanos).collect now).2 ∧
      ((h.keeping nanos).collect now).1.alerts.store.get? f = some a := by
  have hkept : f ∉ ((h.keeping nanos).collect now).2 := by
    rw [mem_collect_iff]
    rintro ⟨b, t, hb, ht, hends⟩
    obtain rfl : a = b := Option.some.inj (ha.symm.trans hb)
    have hle := Instant.le_of_sub?_eq_some hnow (Dispatcher.window_nonneg nanos) ht
    exact Instant.not_lt.mpr (Instant.le_trans hends hle) hfiring
  exact ⟨hkept, AlertStore.get?_collectBy_eq_some_iff.mpr ⟨ha, hkept⟩⟩

/-- **Collecting drops what is due, and collecting twice is collecting once**, except across a leap
second.  The limit is `now` moved back by the retention; if it is beyond the calendar, all alerts
are kept.  A dispatcher takes any retention, a too long one as the longest one, and never drops an
alert that is still firing.  If it collects twice, it leaves what it would leave if it had collected
at the later time alone, and each alert is dropped in one of the two collections, provided that the
times are in the same order when a leap second counts as a part of the second after it, or that the
retention does not reach behind the second of the later time. -/
theorem collected_when_due :
    (∀ (s : AlertStore) (now : Instant) (retention : Int), let limit := now.sub? retention
      s.Drops limit (s.dueBy limit) (s.collectBy limit) ∧
      (now.InCalendar → now.nanos < Instant.second ∨ 0 ≤ retention → ∀ t, limit = some t ↔
        now.back retention = t ∧ Instant.firstSecond ≤ t.seconds ∧
          t.seconds ≤ Instant.lastSecond)) ∧
    ∀ (h : Hub) (nanos : Nat), let retention := min (nanos : Int) Instant.longest
      (∀ now, (h.keeping nanos).dispatcher.limit now = now.sub? retention) ∧
      (∀ now : Instant, now.sub? retention = none →
        (h.keeping nanos).collect now = (h.keeping nanos, [])) ∧
      (∀ now f a, now.InCalendar → h.alerts.store.get? f = some a → now < a.endsAt →
        f ∉ ((h.keeping nanos).collect now).2 ∧
          ((h.keeping nanos).collect now).1.alerts.store.get? f = some a) ∧
      ∀ n₁ n₂ : Instant, n₁.InCalendar → n₂.InCalendar → n₁ ≤ n₂ →
        n₁.elapsed ≤ n₂.elapsed ∨ retention ≤ n₂.nanos →
        let first := (h.keeping nanos).collect n₁
        let second := first.1.collect n₂
        let once := (h.keeping nanos).collect n₂
        second.1 = once.1 ∧ (∀ f ∈ first.2, f ∉ second.2) ∧ (first.2 ++ second.2).Perm once.2 := by
  refine ⟨fun s now retention => ⟨s.drops _, ?_⟩,
    fun h nanos => ⟨limit_keeping h nanos, ?_, ?_, ?_⟩⟩
  · exact fun hnow hretention t => Instant.sub?_eq_some_iff hnow hretention
  · intro now hlimit
    apply collect_of_limit_none
    rw [limit_keeping, hlimit]
  · exact fun now f a hnow ha hfiring => kept_of_firing hnow ha hfiring
  · intro n₁ n₂ h₁ h₂ hle hkeeps
    rw [← Dispatcher.window_eq] at hkeeps
    apply collect_collect
    intro t₁ ht₁
    exact Instant.sub?_mono h₁ h₂ hle (Dispatcher.window_nonneg nanos) hkeeps ht₁

/-- A hub with one alert. -/
def having (a : Alert) : Hub := { (default : Hub) with alerts := .up (AlertStore.empty.insert a) }

theorem get?_having (a : Alert) : (having a).alerts.store.get? a.fingerprint = some a :=
  SortedMap.get?_insert_self _ _ _

/-- An alert that ended at the fifth second is kept for two seconds: it is dropped at the seventh
one, whether or not the dispatcher collects at the sixth one, where it is not due. -/
theorem collected_when_due_seventh :
    let a : Alert := { (default : Alert) with endsAt := ⟨5, 0⟩ }
    let h := (having a).keeping 2000000000
    let first := h.collect ⟨6, 0⟩
    let second := first.1.collect ⟨7, 0⟩
    a.fingerprint ∉ first.2 ∧ a.fingerprint ∈ second.2 ∧ second.1 = (h.collect ⟨7, 0⟩).1 := by
  intro a h first second
  have hstored := get?_having a
  obtain ⟨-, -, -, htwice⟩ := collected_when_due.2 (having a) 2000000000
  obtain ⟨hsame, -, hperm⟩ := htwice ⟨6, 0⟩ ⟨7, 0⟩ ⟨by decide, by decide, by decide⟩
    ⟨by decide, by decide, by decide⟩ (by decide) (.inl (by decide))
  have hdue : a.fingerprint ∈ (h.collect ⟨7, 0⟩).2 :=
    mem_collect_iff.mpr ⟨a, ⟨5, 0⟩, hstored, by decide, by decide⟩
  have hkept : a.fingerprint ∉ first.2 := by
    rw [mem_collect_iff]
    rintro ⟨b, t, hb, ht, hends⟩
    cases hstored.symm.trans hb
    have hlimit : h.dispatcher.limit ⟨6, 0⟩ = some ⟨4, 0⟩ := by decide
    cases hlimit.symm.trans ht
    exact absurd hends (by decide)
  refine ⟨hkept, ?_, hsame⟩
  rcases List.mem_append.mp (hperm.mem_iff.mpr hdue) with hfirst | hsecond
  · exact absurd hfirst hkept
  · exact hsecond

/-- In the middle of a leap second, here that of 1990, the limit is later than shortly after it, so
that an alert is dropped that would be kept. -/
theorem collect_across_leap_second :
    let a : Alert := { (default : Alert) with endsAt := ⟨662687999, 300000000⟩ }
    let h := (having a).keeping 1000000000
    let n₁ : Instant := ⟨662687999, 1500000000⟩
    let n₂ : Instant := ⟨662688000, 200000000⟩
    n₁ ≤ n₂ ∧ ((h.collect n₁).1.collect n₂).1.alerts.store.get? a.fingerprint = none ∧
      (h.collect n₂).1.alerts.store.get? a.fingerprint = some a := by
  intro a h n₁ n₂
  have hstored : h.alerts.store.get? a.fingerprint = some a := get?_having a
  have hfirst : h.dispatcher.limit n₁ = some ⟨662687999, 500000000⟩ := by decide
  have hsecond : h.dispatcher.limit n₂ = some ⟨662687999, 200000000⟩ := by decide
  refine ⟨by decide, ?_, ?_⟩
  · have hdropped : (h.collect n₁).1.alerts.store.get? a.fingerprint = none := by
      rw [get?_collect, hstored, hfirst]
      rfl
    rw [get?_collect, hdropped, Option.filter_none]
  · rw [get?_collect, hstored, hsecond]
    rfl

end Hub

end AlertRouter
