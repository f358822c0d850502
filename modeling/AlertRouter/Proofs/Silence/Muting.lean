import AlertRouter.Proofs.Silence.Records

/-! # What mutes an alert

Which silences mute an alert is asked of the store, record by record.  The answer fails if one of
the active records cannot be read back.  Otherwise it names exactly the records that are active and
whose silence mutes the labels, in the order of their ids (`Silence.eq_muters_of_muting`). -/

namespace AlertRouter

namespace SilenceRecord

/-- Is the record active at `now`, with a silence that mutes alerts with these labels? -/
def mutes (labels : LabelSet) (now : Instant) (r : SilenceRecord) : Bool :=
  r.stateAt now == .active && r.toSilence.toOption.any (·.mutes labels)

theorem mutes_iff {r : SilenceRecord} {silence : Silence} {labels : LabelSet} {now : Instant}
    (h : r.toSilence = .ok silence) :
    r.mutes labels now = true ↔ r.stateAt now = .active ∧ silence.mutes labels = true := by
  rw [mutes, h, Bool.and_eq_true, beq_iff_eq]
  rfl

end SilenceRecord

namespace Silence

variable {records : List SilenceRecord} {labels : LabelSet} {now : Instant}

/-- The ids of the records that mute these labels, in order. -/
def muters (records : List SilenceRecord) (labels : LabelSet) (now : Instant) : List String :=
  ((records.filter (·.mutes labels now)).map (·.id)).mergeSort fun a b => compare a b != .gt

theorem muters_eq_nil_iff :
    muters records labels now = [] ↔ ∀ r ∈ records, r.mutes labels now = false := by
  rw [← List.length_eq_zero_iff, muters, List.length_mergeSort, List.length_map,
    List.length_eq_zero_iff, List.filter_eq_nil_iff]
  simp

/-- **The store tells what mutes an alert**, if it gives an answer. -/
theorem eq_muters_of_muting {ids : List String} (h : muting records labels now = .ok ids) :
    ids = muters records labels now := by
  obtain ⟨silences, hsilences, rfl⟩ := Except.map_eq_ok_iff.mp h
  obtain ⟨hread, rfl⟩ := mapM_toSilence_eq_ok_iff.mp hsilences
  rw [map_id_filter_ofRecords hread (p := fun r => r.toSilence.toOption.any (·.mutes labels)),
    List.filter_filter, muters]
  · unfold SilenceRecord.mutes
    simp only [Bool.and_comm]
  · intro r silence hsilence
    rw [hsilence]
    rfl

theorem muting_eq_ok (h : ∀ r ∈ records, r.Readable) :
    muting records labels now = .ok (muters records labels now) := by
  have hactive : ∀ r ∈ records.filter (fun r => r.stateAt now == .active), r.Readable :=
    fun r hr => h r (List.mem_filter.mp hr).1
  have hmuting : muting records labels now = .ok _ :=
    Except.map_eq_ok_iff.mpr ⟨_, mapM_toSilence_eq_ok_iff.mpr ⟨hactive, rfl⟩, rfl⟩
  rw [hmuting, eq_muters_of_muting hmuting]

end Silence

namespace SilenceStore

variable {silences : Remote SilenceStore} {labels : LabelSet} {now : Instant}

/-- Can it be said what mutes these labels? -/
def Tells (silences : Remote SilenceStore) (labels : LabelSet) (now : Instant) : Prop :=
  ∃ ids, silences.ask (fun store => Silence.muting store.toList labels now) = .ok ids

/-- What can be said is the truth. -/
theorem Tells.ask_eq (h : Tells silences labels now) :
    silences.ask (fun store => Silence.muting store.toList labels now) =
      .ok (Silence.muters silences.store.toList labels now) := by
  obtain ⟨ids, hids⟩ := h
  rw [hids]
  unfold Remote.ask Remote.reach at hids
  split at hids
  · rw [Silence.eq_muters_of_muting hids]
  · cases hids

end SilenceStore

end AlertRouter
