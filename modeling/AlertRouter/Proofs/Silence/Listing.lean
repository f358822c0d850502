import AlertRouter.Proofs.Label.Hexadecimal
import AlertRouter.Proofs.Silence.Muting
import AlertRouter.Proofs.Silence.Store
import AlertRouter.Proofs.StableSort

/-! # What a listing of silences is made of

A listing sorts the silences into three groups by their state and arranges each group by a time.
Nothing is lost or listed twice (`Silence.arrange_perm`), so a listing is made of the stored
silences that its filter selects, each with its state, in three blocks (`Silence.Listed`).

Which silences mute an alert is asked of the records on their own, without a listing.  The answer
agrees with the listing of all silences (`Silence.listed_in_blocks`).  It names no silence twice,
since in whatever way a store has been filled, its records have different ids
(`SilenceStore.Content.nodup_ids`). -/

namespace AlertRouter

namespace SilenceStore

/-! ### The content of a store -/

/-- What can become of an empty store: records are written, whatever they say, and silences are
ended. -/
inductive Content : SilenceStore → Prop
  | empty : Content empty
  | write {s s' : SilenceStore} {fresh id : String} {r : SilenceRecord} {now : Instant}
      (h : Content s) (hwrite : s.write fresh r now = .ok (id, s')) : Content s'
  | expire {s s' : SilenceStore} {id : String} {now : Instant} (h : Content s)
      (hexpire : s.expire id now = .ok ((), s')) : Content s'

variable {s s' : SilenceStore} {r : SilenceRecord} {fresh id : String} {now : Instant}

/-- A record is written under its id. -/
theorem exists_insert_of_write (h : s.write fresh r now = .ok (id, s')) :
    ∃ r' n, s' = ⟨s.records.insert id r', n⟩ ∧ r'.id = id := by
  obtain ⟨_, -, h⟩ := Except.bind_eq_ok_iff.mp h
  split at h
  · cases h
    exact ⟨_, _, rfl, rfl⟩
  · split at h
    · cases h
      exact ⟨_, _, rfl, rfl⟩
    · cases h

theorem exists_insert_of_expire (h : s.expire id now = .ok ((), s')) :
    ∃ r r' n, s.get? id = some r ∧ s' = ⟨s.records.insert id r', n⟩ ∧ r'.id = r.id := by
  unfold expire at h
  split at h
  · cases h
  · next r hr =>
      obtain ⟨r', hended, h⟩ := Except.map_eq_ok_iff.mp h
      obtain ⟨-, rfl⟩ := ended_eq_ok_iff.mp hended
      cases h
      exact ⟨r, _, _, hr, rfl, rfl⟩

/-- Every record is found under its id. -/
theorem Content.filed (h : s.Content) : ∀ id r, s.get? id = some r → r.id = id := by
  induction h with
  | empty => exact fun _ _ => nofun
  | write _ hwrite ih =>
      obtain ⟨r', n, rfl, hid⟩ := exists_insert_of_write hwrite
      intro key r hr
      rcases get?_insert_cases hr with ⟨rfl, rfl⟩ | ⟨-, hr⟩
      · exact hid
      · exact ih key r hr
  | expire _ hexpire ih =>
      obtain ⟨r, r', n, hr, rfl, hid⟩ := exists_insert_of_expire hexpire
      intro key r₀ hr₀
      rcases get?_insert_cases hr₀ with ⟨rfl, rfl⟩ | ⟨-, hr₀⟩
      · rw [hid]
        exact ih key r hr
      · exact ih key r₀ hr₀

theorem Content.nodup_ids (h : s.Content) : (s.toList.map (·.id)).Nodup := by
  have hkeys : s.toList.map (·.id) = s.records.keys := by
    rw [toList, SortedMap.values, SortedMap.keys, List.map_map]
    apply List.map_congr_left
    rintro ⟨key, r⟩ hr
    exact h.filed key r (SortedMap.mem_entries_iff.mp hr)
  rw [hkeys]
  exact s.records.nodup_keys

end SilenceStore

namespace Silence

variable {records : List SilenceRecord} {filter : List Matcher} {labels : LabelSet} {now : Instant}
  {found : List Silence} {x : Silence}

/-! ### Groups -/

/-- Every silence is in exactly one of three states. -/
theorem filter_stateAt_perm (now : Instant) (all : List Silence) :
    (all.filter (·.stateAt now == .active) ++ all.filter (·.stateAt now == .pending) ++
      all.filter (·.stateAt now == .expired)).Perm all := by
  induction all with
  | nil => exact .nil
  | cons x all ih =>
      have hcons := ih.cons x
      cases hx : x.stateAt now with
      | active => simpa [List.filter_cons, hx] using hcons
      | pending =>
          simp only [List.append_assoc] at hcons
          simpa [List.filter_cons, hx] using List.perm_middle.trans hcons
      | expired => simpa [List.filter_cons, hx] using List.perm_middle.trans hcons

theorem arrange_perm (now : Instant) (all : List Silence) : (arrange now all).Perm all := by
  have hgroup (state : SilenceState) (le : Silence → Silence → Bool) :
      (inState state now le all).Perm (all.filter (·.stateAt now == state)) :=
    List.mergeSort_perm _ _
  unfold arrange
  exact (((hgroup _ _).append (hgroup _ _)).append (hgroup _ _)).trans (filter_stateAt_perm now all)

/-- The time by which a group is ordered. -/
def timeIn (state : SilenceState) (x : Silence) : Instant :=
  match state with
  | .pending => x.startsAt
  | .active | .expired => x.endsAt

/-- The order of a group. -/
def before (state : SilenceState) (x y : Silence) : Bool :=
  match state with
  | .active | .pending => x.timeIn state ≤ y.timeIn state
  | .expired => y.timeIn state ≤ x.timeIn state

theorem arrange_eq (now : Instant) (all : List Silence) : arrange now all =
    inState .active now (before .active) all ++ inState .pending now (before .pending) all ++
      inState .expired now (before .expired) all := rfl

theorem before_trans (state : SilenceState) (x y z : Silence) (hxy : before state x y = true)
    (hyz : before state y z = true) : before state x z = true := by
  cases state <;> simp only [before, decide_eq_true_eq] at hxy hyz ⊢
  · exact Instant.le_trans hyz hxy
  · exact Instant.le_trans hxy hyz
  · exact Instant.le_trans hxy hyz

theorem before_total (state : SilenceState) (x y : Silence) :
    (before state x y || before state y x) = true := by
  cases state <;> simp only [before, Bool.or_eq_true, decide_eq_true_eq] <;>
    exact Instant.le_total _ _

theorem stateAt_of_mem_inState {state : SilenceState} {le : Silence → Silence → Bool}
    {all : List Silence} (h : x ∈ inState state now le all) : x ∈ all ∧ x.stateAt now = state := by
  unfold inState at h
  simpa using h

theorem pairwise_inState (state : SilenceState) (now : Instant) (all : List Silence) :
    (inState state now (before state) all).Pairwise fun x y => before state x y = true :=
  List.pairwise_mergeSort (before_trans state) (before_total state) _

/-! ### Listings -/

theorem readable_ofSilence (silences : List Silence) :
    ∀ r ∈ silences.map SilenceRecord.ofSilence, r.Readable := by
  intro r hr
  obtain ⟨silence, -, rfl⟩ := List.mem_map.mp hr
  exact ⟨_, SilenceRecord.toSilence_ofSilence silence⟩

/-- What a listing at `now` is made of: the silences that the filter selects, each with its state,
in three blocks. -/
structure Listed (silences : List Silence) (filter : List Matcher) (now : Instant)
    (found : List Silence) : Prop where
  perm : found.Perm
    ((silences.filter fun x => Matcher.selects filter x.matcherLabels).map (·.withState now))
  blocks : ∃ active pending expired, found = active ++ pending ++ expired ∧
    (∀ x ∈ active, x.state = some .active) ∧ active.Pairwise (fun x y => x.endsAt ≤ y.endsAt) ∧
    (∀ x ∈ pending, x.state = some .pending) ∧
      pending.Pairwise (fun x y => x.startsAt ≤ y.startsAt) ∧
    (∀ x ∈ expired, x.state = some .expired) ∧ expired.Pairwise (fun x y => y.endsAt ≤ x.endsAt)

/-- The silences that a listing arranges. -/
def selected (records : List SilenceRecord) (filter : List Matcher) (now : Instant) :
    List Silence :=
  ((ofRecords records).filter fun x => Matcher.selects filter x.matcherLabels).map (·.withState now)

theorem listing_eq_ok_iff : listing records filter now = .ok found ↔
    (∀ r ∈ records, r.Readable) ∧ arrange now (selected records filter now) = found := by
  have hselected : ((ofRecords records).map (·.withState now)).filter
      (fun x => Matcher.selects filter x.matcherLabels) = selected records filter now := by
    rw [selected, List.filter_map]
    rfl
  rw [listing, Except.map_eq_ok_iff, ← hselected]
  simp only [mapM_toSilence_eq_ok_iff]
  constructor
  · rintro ⟨_, ⟨hread, rfl⟩, rfl⟩
    exact ⟨hread, rfl⟩
  · rintro ⟨hread, rfl⟩
    exact ⟨_, ⟨hread, rfl⟩, rfl⟩

/-- What is listed is shown with its state. -/
theorem state_of_mem_selected (h : x ∈ selected records filter now) :
    x.state = some (x.stateAt now) := by
  obtain ⟨y, -, rfl⟩ := List.mem_map.mp h
  rfl

theorem listed_of_listing (h : listing records filter now = .ok found) :
    Listed (ofRecords records) filter now found := by
  obtain ⟨-, rfl⟩ := listing_eq_ok_iff.mp h
  have hstate (state : SilenceState) :
      ∀ x ∈ inState state now (before state) (selected records filter now),
        x.state = some state := by
    intro x hx
    obtain ⟨hmem, hstate⟩ := stateAt_of_mem_inState hx
    rw [state_of_mem_selected hmem, hstate]
  refine ⟨arrange_perm now _, _, _, _, arrange_eq now _, hstate _, ?_, hstate _, ?_, hstate _, ?_⟩
  · exact (pairwise_inState .active now _).imp fun hle => of_decide_eq_true hle
  · exact (pairwise_inState .pending now _).imp fun hle => of_decide_eq_true hle
  · exact (pairwise_inState .expired now _).imp fun hle => of_decide_eq_true hle

/-! ### What mutes an alert -/

theorem pairwise_muters (records : List SilenceRecord) (labels : LabelSet) (now : Instant) :
    (muters records labels now).Pairwise (· ≤ ·) := by
  have hsorted := List.pairwise_mergeSort (compare_ne_gt_trans fun id : String => id)
    (compare_ne_gt_total _) ((records.filter (·.mutes labels now)).map (·.id))
  refine hsorted.imp ?_
  intro a b hab
  -- That `b` is not before `a` is what `a ≤ b` means.
  show ¬ b < a
  rw [← Fingerprint.compare_string_eq_lt_iff]
  intro hba
  rw [Std.OrientedCmp.gt_of_lt hba] at hab
  cases hab

theorem nodup_muters (h : (records.map (·.id)).Nodup) : (muters records labels now).Nodup := by
  have hfilter : ((records.filter (·.mutes labels now)).map (·.id)).Nodup :=
    h.sublist (List.filter_sublist.map _)
  exact (List.mergeSort_perm _ _).nodup_iff.mpr hfilter

/-- The silences that mute are those that a listing of all silences shows as active and that mute
the labels. -/
theorem muters_perm (hread : ∀ r ∈ records, r.Readable)
    (h : listing records [] now = .ok found) :
    (muters records labels now).Perm
      ((found.filter fun x => x.state == some .active && x.mutes labels).map (·.id)) := by
  have hfound := (listed_of_listing h).perm
  have hall : ((ofRecords records).filter fun x => Matcher.selects [] x.matcherLabels) =
      ofRecords records := List.filter_eq_self.mpr fun _ _ => rfl
  rw [hall] at hfound
  have hchosen : ((ofRecords records).filter
      fun x => x.stateAt now == .active && x.mutes labels).map (·.id) =
      (records.filter (·.mutes labels now)).map (·.id) := by
    refine map_id_filter_ofRecords hread ?_
    intro r silence hsilence
    rw [Bool.eq_iff_iff, SilenceRecord.mutes_iff hsilence, Bool.and_eq_true, beq_iff_eq,
      SilenceRecord.toSilence_stateAt hsilence]
  have hshown : (((ofRecords records).map (·.withState now)).filter
      fun x => x.state == some .active && x.mutes labels).map (·.id) =
      (records.filter (·.mutes labels now)).map (·.id) := by
    rw [← hchosen, List.filter_map, List.map_map]
    rfl
  rw [muters]
  refine (List.mergeSort_perm _ _).trans ?_
  rw [← hshown]
  exact ((hfound.filter _).map _).symm

/-- **A listing groups and orders the silences without loss, and it agrees with what is said to mute
an alert.**  If all records can be read, in whatever order the store gives them, every listing has
exactly the silences that its filter selects, with their states: the active ones by their end, then
the pending ones by their start, then the expired ones by their end backwards.  The ids of the
silences that mute an alert come in order, as those of the silences that a listing of all shows as
active and that mute its labels.  None comes twice, since records of a store have different ids. -/
theorem listed_in_blocks (hread : ∀ r ∈ records, r.Readable) (now : Instant) :
    ∃ silences, records.map SilenceRecord.toSilence = silences.map .ok ∧
    (∀ filter, ∃ found, listing records filter now = .ok found ∧
      Listed silences filter now found) ∧
    (∃ all, listing records [] now = .ok all ∧ ∀ labels, ∃ ids,
      muting records labels now = .ok ids ∧ ids.Pairwise (· ≤ ·) ∧
      ids.Perm ((all.filter fun x => x.state == some .active && x.mutes labels).map (·.id)) ∧
      ((records.map (·.id)).Nodup → ids.Nodup)) ∧
    ∀ s : SilenceStore, s.Content → records.Perm s.toList → (records.map (·.id)).Nodup := by
  have hlisting (filter : List Matcher) : listing records filter now =
      .ok (arrange now (selected records filter now)) := listing_eq_ok_iff.mpr ⟨hread, rfl⟩
  refine ⟨ofRecords records, map_toSilence_ofRecords hread, fun filter => ?_, ?_, ?_⟩
  · exact ⟨_, hlisting filter, listed_of_listing (hlisting filter)⟩
  · refine ⟨_, hlisting [], fun labels => ⟨_, muting_eq_ok hread, ?_, ?_, nodup_muters⟩⟩
    · exact pairwise_muters records labels now
    · exact muters_perm hread (hlisting [])
  · intro s hs hperm
    exact (hperm.map _).nodup_iff.mpr hs.nodup_ids

/-- Of two silences that match an alert, the one that has begun mutes it; the listing has both. -/
theorem listed_in_blocks_begun :
    let begun : Silence := ⟨"u-2", [.equal "job" "api"], ⟨1, 0⟩, ⟨9, 0⟩, ⟨0, 0⟩, "me", "", none⟩
    let later : Silence := ⟨"u-1", [.equal "job" "api"], ⟨5, 0⟩, ⟨9, 0⟩, ⟨0, 0⟩, "me", "", none⟩
    let records := [later, begun].map SilenceRecord.ofSilence
    (∀ r ∈ records, r.Readable) ∧
    (∃ all, listing records [] ⟨4, 0⟩ = .ok all ∧ Listed [later, begun] [] ⟨4, 0⟩ all) ∧
    muting records (.ofList [("job", "api")]) ⟨4, 0⟩ = .ok ["u-2"] := by
  intro begun later records
  have hread := readable_ofSilence [later, begun]
  obtain ⟨silences, hsilences, hlisting, ⟨all, hall, hmuting⟩, -⟩ := listed_in_blocks hread ⟨4, 0⟩
  have hboth : silences = [later, begun] := by
    refine (List.map_inj_right fun _ _ => Except.ok.inj).mp (hsilences.symm.trans ?_)
    simp [SilenceRecord.toSilence_ofSilence, later, begun]
  subst hboth
  obtain ⟨found, hfound, hlisted⟩ := hlisting []
  obtain rfl : found = all := Except.ok.inj (hfound.symm.trans hall)
  refine ⟨hread, ⟨found, hfound, hlisted⟩, ?_⟩
  obtain ⟨ids, hids, -, hperm, -⟩ := hmuting (.ofList [("job", "api")])
  have hone : ids.Perm ["u-2"] :=
    hperm.trans (((hlisted.perm.filter _).map _).trans (.of_eq (by decide +kernel)))
  rw [hids, List.perm_singleton.mp hone]

end Silence

end AlertRouter
