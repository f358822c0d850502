import AlertRouter.Proofs.Outcome
import AlertRouter.Silence.Query

/-! # Reading stored silences

A record is `Readable` if it is the stored form of some silence: its patterns denote expressions.
Reading a list of records fails if one of them is not readable.  Otherwise it gives their silences
in the same order (`Silence.ofRecords`), with the ids and the windows of the records
(`Silence.map_id_filter_ofRecords`). -/

namespace AlertRouter

namespace SilenceRecord

variable {r : SilenceRecord} {silence : Silence} {now : Instant}

/-- Does the record give a silence? -/
def Readable (r : SilenceRecord) : Prop := ∃ silence, r.toSilence = .ok silence

theorem toSilence_id (h : r.toSilence = .ok silence) : silence.id = r.id := by
  obtain ⟨matchers, -, rfl⟩ := Except.map_eq_ok_iff.mp h
  rfl

theorem toSilence_stateAt (h : r.toSilence = .ok silence) :
    silence.stateAt now = r.stateAt now := by
  obtain ⟨matchers, -, rfl⟩ := Except.map_eq_ok_iff.mp h
  rfl

end SilenceRecord

namespace Silence

variable {r : SilenceRecord} {records : List SilenceRecord} {silences : List Silence}

/-- The silences of the records that give one. -/
def ofRecords (records : List SilenceRecord) : List Silence :=
  records.filterMap fun r => r.toSilence.toOption

theorem ofRecords_cons_of_ok {silence : Silence} (h : r.toSilence = .ok silence) :
    ofRecords (r :: records) = silence :: ofRecords records := by
  rw [ofRecords, List.filterMap_cons, h]
  rfl

theorem map_toSilence_ofRecords (h : ∀ r ∈ records, r.Readable) :
    records.map SilenceRecord.toSilence = (ofRecords records).map .ok := by
  induction records with
  | nil => rfl
  | cons r records ih =>
      obtain ⟨⟨silence, hsilence⟩, hrest⟩ := List.forall_mem_cons.mp h
      rw [ofRecords_cons_of_ok hsilence, List.map_cons, List.map_cons, hsilence, ih hrest]

theorem mapM_toSilence_eq_ok_iff : records.mapM SilenceRecord.toSilence = .ok silences ↔
    (∀ r ∈ records, r.Readable) ∧ ofRecords records = silences := by
  rw [Except.mapM_eq_ok_iff]
  constructor
  · intro h
    have hread : ∀ r ∈ records, r.Readable := by
      intro r hr
      have hmem : r.toSilence ∈ silences.map .ok := by
        rw [← h]
        exact List.mem_map_of_mem hr
      obtain ⟨silence, -, hsilence⟩ := List.mem_map.mp hmem
      exact ⟨silence, hsilence.symm⟩
    refine ⟨hread, ?_⟩
    rw [map_toSilence_ofRecords hread] at h
    exact (List.map_inj_right fun _ _ => Except.ok.inj).mp h
  · rintro ⟨hread, rfl⟩
    exact map_toSilence_ofRecords hread

theorem mem_ofRecords_iff {silence : Silence} :
    silence ∈ ofRecords records ↔ ∃ r ∈ records, r.toSilence = .ok silence := by
  rw [ofRecords, List.mem_filterMap]
  simp only [Except.toOption_eq_some_iff]

/-- Choosing among records and among their silences in the same way. -/
theorem map_id_filter_ofRecords {p : SilenceRecord → Bool} {q : Silence → Bool}
    (hread : ∀ r ∈ records, r.Readable)
    (hpq : ∀ r silence, r.toSilence = .ok silence → p r = q silence) :
    ((ofRecords records).filter q).map (·.id) = (records.filter p).map (·.id) := by
  induction records with
  | nil => rfl
  | cons r records ih =>
      obtain ⟨⟨silence, hsilence⟩, hrest⟩ := List.forall_mem_cons.mp hread
      rw [ofRecords_cons_of_ok hsilence, List.filter_cons, List.filter_cons, hpq r _ hsilence]
      split
      · rw [List.map_cons, List.map_cons, ih hrest, SilenceRecord.toSilence_id hsilence]
      · exact ih hrest

end Silence

end AlertRouter
