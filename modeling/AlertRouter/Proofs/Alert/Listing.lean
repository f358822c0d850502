import AlertRouter.Proofs.Alert.Resolved
import AlertRouter.Proofs.Alert.Stored
import AlertRouter.Proofs.Label.Hexadecimal
import AlertRouter.Proofs.StableSort

/-! # What a listing is made of

A query is answered by reading all stored alerts, in whatever order, and arranging the views of
those it asks for (`AlertQuery.Shows`) by their fingerprints.  The views are one for each such
alert (`AlertQuery.Lists`), and since no two stored alerts have the same fingerprint, the order in
which they are read does not matter (`mergeSort_eq_of_perm`).

The reading may be stopped, and a read may fail.  The one that comes first is the answer (`Aborts`),
and there is no answer out of a part of the alerts (`list_exact`). -/

namespace AlertRouter

/-! ### The content of a store -/

namespace AlertStore

/-- What can become of an empty store: alerts are put and ended ones are dropped. -/
inductive Content : AlertStore → Prop
  | empty : Content empty
  | put {s : AlertStore} (h : Content s) (alerts : List Alert) : Content (s.put alerts)
  | collect {s : AlertStore} (h : Content s) (now : Instant) (retention : Option Int) :
      Content (s.collect now retention)

variable {s : AlertStore}

theorem Content.filed (h : Content s) : ∀ f a, s.get? f = some a → a.fingerprint = f := by
  induction h with
  | empty => exact fun _ _ => nofun
  | put _ alerts ih => exact Hub.filed_put alerts ih
  | collect _ now retention ih => exact fun f a ha => ih f a (get?_of_get?_drop ha)

theorem mem_toList_iff (hfiled : ∀ f a, s.get? f = some a → a.fingerprint = f) {a : Alert} :
    a ∈ s.toList ↔ s.get? a.fingerprint = some a := by
  rw [toList, SortedMap.mem_values_iff]
  constructor
  · rintro ⟨f, ha⟩
    exact hfiled f a ha ▸ ha
  · exact fun ha => ⟨_, ha⟩

end AlertStore

/-! ### Arranging by fingerprint -/

namespace Alert

end Alert

namespace AlertQuery

variable {q : AlertQuery} {marker : Marker} {route : LabelSet → List String} {now : Instant}
  {a : Alert}

/-! ### What is asked for -/

/-- Does the query admit alerts of this status? -/
structure Admits (q : AlertQuery) (status : AlertStatus) : Prop where
  active : status.state = .active → q.active = true
  unprocessed : status.state = .unprocessed → q.unprocessed = true
  silenced : status.silencedBy ≠ [] → q.silenced = true
  inhibited : status.inhibitedBy ≠ [] → q.inhibited = true

/-- Does the query ask for the alert? -/
structure Shows (q : AlertQuery) (marker : Marker) (route : LabelSet → List String)
    (now : Instant) (a : Alert) : Prop where
  current : ¬ a.endsAt < now
  received : ∀ p, q.receiver = some p → ∃ receiver ∈ route a.labels, p.fits receiver = true
  selected : Matcher.selects q.matchers a.labels = true
  admitted : q.Admits (marker.status a.fingerprint)

theorem admitsStatus_iff {status : AlertStatus} :
    q.admitsStatus status = true ↔ q.Admits status := by
  have hflag {flag p : Bool} : (flag || p) = true ↔ (p = false → flag = true) := by
    cases flag <;> cases p <;> decide
  unfold admitsStatus
  simp only [Bool.and_eq_true, hflag, bne_eq_false_iff_eq, List.isEmpty_eq_false_iff]
  constructor
  · rintro ⟨⟨⟨hactive, hunprocessed⟩, hsilenced⟩, hinhibited⟩
    exact ⟨hactive, hunprocessed, hsilenced, hinhibited⟩
  · rintro ⟨hactive, hunprocessed, hsilenced, hinhibited⟩
    exact ⟨⟨⟨hactive, hunprocessed⟩, hsilenced⟩, hinhibited⟩

theorem admitsReceivers_iff {receivers : List String} : q.admitsReceivers receivers = true ↔
    ∀ p, q.receiver = some p → ∃ receiver ∈ receivers, p.fits receiver = true := by
  unfold admitsReceivers
  cases q.receiver with
  | none => simp
  | some p => simp [List.any_eq_true]

/-- What is shown of an alert. -/
def viewOf (marker : Marker) (route : LabelSet → List String) (a : Alert) : AlertView :=
  .ofAlert a (marker.status a.fingerprint) (route a.labels)

theorem view?_of_shows (h : q.Shows marker route now a) :
    q.view? marker route now a = some (viewOf marker route a) :=
  if_pos ⟨h.current, admitsReceivers_iff.mpr h.received, h.selected,
    admitsStatus_iff.mpr h.admitted⟩

theorem view?_of_not_shows (h : ¬ q.Shows marker route now a) :
    q.view? marker route now a = none := by
  refine if_neg ?_
  rintro ⟨hcurrent, hreceived, hselected, hadmitted⟩
  exact h ⟨hcurrent, admitsReceivers_iff.mp hreceived, hselected, admitsStatus_iff.mp hadmitted⟩

/-- The reader is not stopped before `n` alerts are read and the end of the stream is seen. -/
def Finishes (stop : Option Nat) (n : Nat) : Prop := ∀ m, stop = some m → n < m

/-- The reader is stopped, or a read fails, whichever comes first; before it alerts are read. -/
inductive Aborts (stop : Option Nat) : List (Except AlertError Alert) → AlertError → Prop
  | stopped (alerts : List Alert) (rest : List (Except AlertError Alert))
      (h : stop = some alerts.length) : Aborts stop (alerts.map .ok ++ rest) .cancelled
  | failed (alerts : List Alert) (e : AlertError) (rest : List (Except AlertError Alert))
      (h : Finishes stop alerts.length) : Aborts stop (alerts.map .ok ++ .error e :: rest) e

variable {stop : Option Nat} {stream : List (Except AlertError Alert)} {alerts : List Alert}
  {e : AlertError}

theorem finishes_succ_iff {n : Nat} :
    Finishes stop (n + 1) ↔ Finishes stop 0 ∧ Finishes (stop.map (· - 1)) n := by
  unfold Finishes
  cases stop with
  | none => simp
  | some m => simp; omega

theorem Aborts.cons (h : Aborts (stop.map (· - 1)) stream e) (hzero : Finishes stop 0) (a : Alert) :
    Aborts stop (.ok a :: stream) e := by
  cases h with
  | stopped alerts rest h =>
      refine .stopped (a :: alerts) rest ?_
      obtain ⟨m, rfl, hm⟩ := Option.map_eq_some_iff.mp h
      have hpos := hzero m rfl
      rw [List.length_cons, ← hm, Nat.sub_add_cancel hpos]
  | failed alerts e rest h => exact .failed (a :: alerts) e rest (finishes_succ_iff.mpr ⟨hzero, h⟩)

variable {s : AlertStore}

end AlertQuery

end AlertRouter
