import AlertRouter.Proofs.Delivery.Attempts
import AlertRouter.Proofs.Silence.Listing

/-! # Stored silences can be read back

Silences are read record by record, and a single record that is the form of no silence would fail a
listing, and the question what mutes an alert.  There is none: all records of a store are `Faithful`
after any requests, since ending a silence moves its window alone (`SilenceStore.Run.faithful`).  So
nothing that is asked of the store fails, and the dispatcher always knows what mutes an alert
(`SilenceStore.read_back`). -/

namespace AlertRouter

/-! ### Records -/

namespace SilenceRecord

variable {r : SilenceRecord} {records : List SilenceRecord} {silence : Silence} {labels : LabelSet}
  {now : Instant}

/-- The record is the stored form of a silence. -/
def Faithful (r : SilenceRecord) : Prop := ∃ silence, r = ofSilence silence

theorem Faithful.readable (h : r.Faithful) : r.Readable := by
  obtain ⟨silence, rfl⟩ := h
  exact ⟨_, toSilence_ofSilence silence⟩

end SilenceRecord

/-! ### Questions -/

namespace Silence

variable {records : List SilenceRecord} {filter : List Matcher} {labels : LabelSet} {now : Instant}
  {x : Silence} {id : String}

theorem exists_listing (h : ∀ r ∈ records, r.Readable) :
    ∃ found, listing records filter now = .ok found ∧ ∀ x, x ∈ found ↔
      (∃ r ∈ records, ∃ silence, r.toSilence = .ok silence ∧ silence.withState now = x) ∧
      Matcher.selects filter x.matcherLabels = true := by
  refine ⟨_, listing_eq_ok_iff.mpr ⟨h, rfl⟩, fun x => ?_⟩
  rw [(arrange_perm _ _).mem_iff, selected, List.mem_map]
  simp only [List.mem_filter, mem_ofRecords_iff]
  constructor
  · rintro ⟨silence, ⟨⟨r, hr, hsilence⟩, hselects⟩, rfl⟩
    exact ⟨⟨r, hr, silence, hsilence, rfl⟩, hselects⟩
  · rintro ⟨⟨r, hr, silence, hsilence, rfl⟩, hselects⟩
    exact ⟨silence, ⟨⟨r, hr, hsilence⟩, hselects⟩, rfl⟩

theorem mem_muters_iff :
    id ∈ muters records labels now ↔ ∃ r ∈ records, r.mutes labels now = true ∧ r.id = id := by
  simp [muters, and_assoc]

end Silence

/-- A pass that can tell what mutes an alert sends no alert that is muted. -/
theorem Hub.audible_of_mem_pass {hub : Hub} {now : Instant}
    {stream : List (Except AlertError Alert)} {d : Delivery}
    (htells : ∀ labels, SilenceStore.Tells hub.silences labels now)
    (hd : d ∈ (hub.pass now stream).2) :
    ∀ r ∈ hub.silences.store.toList, r.mutes d.alert.labels now = false := by
  cases hs : hub.dispatcher.snapshot with
  | none =>
      rw [pass, Dispatcher.pass, hs] at hd
      cases hd
  | some snapshot =>
      -- What is sent was tried, and an alert that is muted is not tried with any integration.
      rw [pass_eq hs] at hd
      have htried := (Dispatcher.mem_foldl_attempt hd).resolve_left List.not_mem_nil
      obtain ⟨a, -, ha⟩ := List.mem_flatMap.mp htried
      obtain ⟨halert, -, haudible⟩ := (Dispatcher.mem_attempts_iff (htells a.labels)).mp ha
      rw [halert]
      exact haudible

/-! ### After any requests -/

namespace SilenceStore

variable {s : SilenceStore} {ids : List String} {now : Instant} {labels : LabelSet} {id : String}
  {x : Silence}

theorem Run.faithful (h : empty.Run ids s) : ∀ id r, s.get? id = some r → r.Faithful := by
  have hended : ∀ id r r' now, r.Faithful → ended id r now = .ok r' → r'.Faithful := by
    intro id r r' now hr hr'
    obtain ⟨silence, rfl⟩ := hr
    obtain ⟨-, rfl⟩ := ended_eq_ok_iff.mp hr'
    exact ⟨{ silence with
      startsAt := silence.startsAt.min now, endsAt := now, updatedAt := now }, rfl⟩
  exact h.forall_record nofun (fun _ _ _ _ _ => ⟨_, rfl⟩) fun id => hended id

theorem find_eq_ok_iff : s.find id now = .ok x ↔
    ∃ r, s.get? id = some r ∧ ∃ silence, r.toSilence = .ok silence ∧ silence.withState now = x := by
  unfold find
  cases s.get? id with
  | none => simp
  | some r => simp

theorem mem_toList_iff {r : SilenceRecord} : r ∈ s.toList ↔ ∃ id, s.get? id = some r :=
  SortedMap.mem_values_iff

theorem Run.forall_readable (h : empty.Run ids s) : ∀ r ∈ s.toList, r.Readable := by
  intro r hr
  obtain ⟨id, hid⟩ := mem_toList_iff.mp hr
  exact (h.faithful id r hid).readable

/-- A stored silence mutes what its record does. -/
theorem mutes_iff_of_find {r : SilenceRecord} {silence : Silence}
    (hsilence : r.toSilence = .ok silence) (hx : silence.withState now = x) :
    r.mutes labels now = true ↔ x.state = some .active ∧ x.mutes labels = true := by
  subst hx
  have hstate : (silence.withState now).state = some .active ↔ r.stateAt now = .active := by
    rw [← SilenceRecord.toSilence_stateAt hsilence]
    exact Option.some_inj
  rw [SilenceRecord.mutes_iff hsilence, hstate]
  rfl

theorem tells_up (h : ∀ r ∈ s.toList, r.Readable) : Tells (.up s) labels now :=
  ⟨_, Silence.muting_eq_ok h⟩

theorem Run.exists_find (h : empty.Run ids s) {r : SilenceRecord} (hr : s.get? id = some r)
    (now : Instant) : ∃ x, s.find id now = .ok x := by
  obtain ⟨silence, hsilence⟩ := (h.faithful id r hr).readable
  exact ⟨_, find_eq_ok_iff.mpr ⟨r, hr, silence, hsilence, rfl⟩⟩

theorem Run.exists_listing (h : empty.Run ids s) (filter : List Matcher) (now : Instant) :
    ∃ found, Silence.listing s.toList filter now = .ok found ∧ ∀ x, x ∈ found ↔
      (∃ id, s.find id now = .ok x) ∧ Matcher.selects filter x.matcherLabels = true := by
  obtain ⟨found, hfound, hmem⟩ := Silence.exists_listing h.forall_readable
  refine ⟨found, hfound, fun x => (hmem x).trans (and_congr_left fun _ => ?_)⟩
  simp only [mem_toList_iff, find_eq_ok_iff]
  constructor
  · rintro ⟨r, ⟨id, hr⟩, hx⟩
    exact ⟨id, r, hr, hx⟩
  · rintro ⟨id, r, hr, hx⟩
    exact ⟨r, ⟨id, hr⟩, hx⟩

theorem Run.exists_muting (h : empty.Run ids s) (labels : LabelSet) (now : Instant) :
    ∃ muters, Silence.muting s.toList labels now = .ok muters ∧ ∀ id, id ∈ muters ↔
      ∃ x, s.find id now = .ok x ∧ x.state = some .active ∧ x.mutes labels = true := by
  refine ⟨_, Silence.muting_eq_ok h.forall_readable, fun id => Silence.mem_muters_iff.trans ?_⟩
  simp only [mem_toList_iff]
  constructor
  · rintro ⟨r, ⟨key, hr⟩, hmutes, rfl⟩
    obtain ⟨silence, hsilence⟩ := (h.faithful key r hr).readable
    rw [← (h.sound key r hr).filed] at hr
    exact ⟨_, find_eq_ok_iff.mpr ⟨r, hr, silence, hsilence, rfl⟩,
      (mutes_iff_of_find hsilence rfl).mp hmutes⟩
  · rintro ⟨x, hx, hmutes⟩
    obtain ⟨r, hr, silence, hsilence, hx⟩ := find_eq_ok_iff.mp hx
    exact ⟨r, ⟨id, hr⟩, (mutes_iff_of_find hsilence hx).mpr hmutes, (h.sound id r hr).filed⟩

/-- Nothing is sent that an active silence mutes. -/
theorem Run.audible (h : empty.Run ids s) {hub : Hub} (hsilences : hub.silences = .up s)
    {stream : List (Except AlertError Alert)} {d : Delivery} (hd : d ∈ (hub.pass now stream).2)
    (hx : s.find id now = .ok x) (hactive : x.state = some .active) :
    x.mutes d.alert.labels = false := by
  obtain ⟨r, hr, silence, hsilence, hx⟩ := find_eq_ok_iff.mp hx
  have htells (labels : LabelSet) : Tells hub.silences labels now := by
    rw [hsilences]
    exact tells_up h.forall_readable
  have hstored : r ∈ hub.silences.store.toList := by
    rw [hsilences]
    exact mem_toList_iff.mpr ⟨id, hr⟩
  have haudible := Hub.audible_of_mem_pass htells hd r hstored
  cases hmutes : x.mutes d.alert.labels with
  | false => rfl
  | true =>
      rw [(mutes_iff_of_find hsilence hx).mpr ⟨hactive, hmutes⟩] at haudible
      cases haudible

/-- **Every stored silence can be read back.**  A silence is stored without loss.  After any
requests each silence is found under its id, every listing has exactly the silences that its filter
selects, and it can be said of any labels which active silences mute them.  The dispatcher sends
nothing that one of these mutes. -/
theorem read_back (h : empty.Run ids s) :
    (∀ silence, (SilenceRecord.ofSilence silence).toSilence = .ok { silence with state := none }) ∧
    (∀ id r now, s.get? id = some r → ∃ x, s.find id now = .ok x) ∧
    (∀ filter now, ∃ found, Silence.listing s.toList filter now = .ok found ∧ ∀ x,
      x ∈ found ↔ (∃ id, s.find id now = .ok x) ∧
        Matcher.selects filter x.matcherLabels = true) ∧
    (∀ labels now, ∃ muters, Silence.muting s.toList labels now = .ok muters ∧ ∀ id,
      id ∈ muters ↔ ∃ x, s.find id now = .ok x ∧ x.state = some .active ∧
        x.mutes labels = true) ∧
    ∀ (hub : Hub) now stream, hub.silences = .up s → ∀ d ∈ (hub.pass now stream).2,
      ∀ id x, s.find id now = .ok x → x.state = some .active →
        x.mutes d.alert.labels = false := by
  refine ⟨SilenceRecord.toSilence_ofSilence, ?_, h.exists_listing, h.exists_muting, ?_⟩
  · intro id r now hr
    exact h.exists_find hr now
  · intro hub now stream hsilences d hd id x hx hactive
    exact h.audible hsilences hd hx hactive

/-- A silence with a pattern mutes once it has been stored, and another one has been ended. -/
theorem read_back_pattern :
    let pattern : AnchoredPattern := ⟨"a(p|w)i",
      (Regex.anchored? "a(p|w)i").get (by decide +kernel), (Option.some_get _).symm⟩
    let silence : Silence :=
      ⟨"", [⟨"job", false, .pattern pattern⟩], ⟨0, 0⟩, ⟨9, 0⟩, ⟨0, 0⟩, "me", "", none⟩
    let first := (createAs "u-1" (.up empty) silence ⟨1, 0⟩).2.store
    let second := (createAs "u-2" (.up first) silence ⟨2, 0⟩).2.store
    let last := ((Remote.up second).change (·.expire "u-2" ⟨3, 0⟩)).2.store
    ∃ muters, Silence.muting last.toList (.ofList [("job", "api")]) ⟨4, 0⟩ = .ok muters ∧
      "u-1" ∈ muters ∧ "u-2" ∉ muters := by
  intro pattern silence first second last
  have hrun := (((Run.refl (s := empty)).create "u-1" silence ⟨1, 0⟩).create "u-2" silence
    ⟨2, 0⟩).expire "u-2" ⟨3, 0⟩
  obtain ⟨-, -, -, hmuting, -⟩ := read_back hrun
  obtain ⟨muters, hmuters, hmem⟩ := hmuting (.ofList [("job", "api")]) ⟨4, 0⟩
  have hfirst : last.find "u-1" ⟨4, 0⟩ = .ok ((silence.storedAs "u-1" ⟨1, 0⟩).withState ⟨4, 0⟩) :=
    find_of_get? (by decide +kernel)
  have hsecond : last.find "u-2" ⟨4, 0⟩ =
      .ok ({ silence.storedAs "u-2" ⟨3, 0⟩ with endsAt := ⟨3, 0⟩ }.withState ⟨4, 0⟩) :=
    find_of_get? (by decide +kernel)
  refine ⟨muters, hmuters, (hmem "u-1").mpr ⟨_, hfirst, by decide +kernel, by decide +kernel⟩, ?_⟩
  intro h
  obtain ⟨x, hx, hactive, -⟩ := (hmem "u-2").mp h
  cases hx.symm.trans hsecond
  exact absurd hactive (by decide +kernel)

end SilenceStore

end AlertRouter
