import AlertRouter.Proofs.Outcome
import AlertRouter.Silence.Store

/-! # What the silence store promises

A request writes at most one record: a silence as it was sent, under its own id or a new one
(`SilenceStore.createAs_cases`), or a stored record whose window ends now
(`SilenceStore.expire_cases`).  From this follows what holds of all stored records after any
requests (`SilenceStore.Run.forall_record`), and that a record stays as it is until the next write
under its id (`SilenceStore.Run.get?_of_notMem`).  Together they make the contract of the store
(`SilenceStore.store_contract`).

The ids of new silences come from outside.  Nothing is assumed of them: an id that has been given
out before counts as a write under that id. -/

namespace AlertRouter

namespace Remote

variable {σ α : Type} {s s' : σ} {f : σ → Except AlertError (α × σ)}

theorem change_up_of_error {e : AlertError} (h : f s = .error e) :
    (up s).change f = (.error e, up s) := by
  rw [change, show (up s).ask f = f s from rfl, h]

theorem change_up_of_ok {a : α} (h : f s = .ok (a, s')) : (up s).change f = (.ok a, up s') := by
  rw [change, show (up s).ask f = f s from rfl, h]
  rfl

end Remote

/-! ### Records -/

namespace SilenceRecord

/-- A silence is stored without loss, but for its state. -/
theorem toSilence_ofSilence (silence : Silence) :
    (ofSilence silence).toSilence = .ok { silence with state := none } := by
  have hmatchers : (silence.matchers.map MatcherRecord.ofMatcher).mapM MatcherRecord.matcher =
      .ok silence.matchers := by
    rw [Except.mapM_eq_ok_iff, List.map_map]
    exact List.map_congr_left fun m _ => MatcherRecord.matcher_ofMatcher m
  unfold toSilence ofSilence
  rw [hmatchers]
  rfl

/-- What holds of a record that is stored under `id`. -/
structure Sound (id : String) (r : SilenceRecord) : Prop where
  filed : r.id = id
  conditional : r.matchers ≠ []
  named : ∀ m ∈ r.matchers, m.name ≠ ""
  window : r.startsAt ≤ r.endsAt

end SilenceRecord

namespace Silence

/-- The id under which a silence is stored, `fresh` being the next new one. -/
def idOr (silence : Silence) (fresh : String) : String :=
  if silence.id = "" then fresh else silence.id

/-- The silence once it has been stored under `id` at `now`. -/
def storedAs (silence : Silence) (id : String) (now : Instant) : Silence :=
  { silence with id := id, updatedAt := now }

end Silence

namespace SilenceStore

variable {s s' : SilenceStore} {silence : Silence} {r r' : SilenceRecord} {now : Instant}
  {fresh id : String} {ids : List String}

/-- When a silence is refused: its window is empty, over or upside down, it has no matchers or one
without a name, or there is no silence with its id. -/
def Refuses (s : SilenceStore) (silence : Silence) (now : Instant) : Prop :=
  silence.startsAt = silence.endsAt ∨ silence.endsAt < now ∨ silence.endsAt < silence.startsAt ∨
    silence.matchers = [] ∨ (∃ m ∈ silence.matchers, m.name = "") ∨
    (silence.id ≠ "" ∧ s.get? silence.id = none)

/-! ### What a request writes -/

theorem check_eq_ok_iff : check r = .ok () ↔
    r.matchers ≠ [] ∧ (∀ m ∈ r.matchers, m.name ≠ "") ∧ r.startsAt ≤ r.endsAt := by
  simp [check, Instant.not_lt]

theorem checkWindow_eq_ok_iff : checkWindow silence now = .ok () ↔
    silence.startsAt ≠ silence.endsAt ∧ ¬ silence.endsAt < now := by
  simp [checkWindow]

theorem write_eq_ok_iff {p : String × SilenceStore} :
    s.write fresh (.ofSilence silence) now = .ok p ↔
      check (.ofSilence silence) = .ok () ∧ ¬ (silence.id ≠ "" ∧ s.get? silence.id = none) ∧
      p = (silence.idOr fresh, ⟨s.records.insert (silence.idOr fresh)
        (.ofSilence (silence.storedAs (silence.idOr fresh) now)),
        if silence.id = "" then s.issued + 1 else s.issued⟩) := by
  have hid : (SilenceRecord.ofSilence silence).id = silence.id := rfl
  unfold write Silence.idOr
  simp only [Except.bind_eq_ok_iff, hid]
  by_cases hnew : silence.id = ""
  · simp only [if_pos hnew, Except.ok.injEq]
    constructor
    · rintro ⟨_, hcheck, rfl⟩
      exact ⟨hcheck, fun h => h.1 hnew, rfl⟩
    · rintro ⟨hcheck, -, rfl⟩
      exact ⟨(), hcheck, rfl⟩
  · simp only [if_neg hnew]
    constructor
    · rintro ⟨_, hcheck, h⟩
      split at h
      · next hknown =>
          cases h
          refine ⟨hcheck, fun h => ?_, rfl⟩
          rw [SortedMap.contains, show s.records.get? silence.id = none from h.2] at hknown
          cases hknown
      · cases h
    · rintro ⟨hcheck, hknown, rfl⟩
      have hknown : s.records.contains silence.id = true := by
        cases hget : s.get? silence.id with
        | none => exact absurd ⟨hnew, hget⟩ hknown
        | some r => rw [SortedMap.contains, show s.records.get? silence.id = some r from hget]; rfl
      exact ⟨(), hcheck, by rw [if_pos hknown]; rfl⟩

theorem refuses_iff : s.Refuses silence now ↔
    ¬ (checkWindow silence now = .ok () ∧ check (.ofSilence silence) = .ok () ∧
      ¬ (silence.id ≠ "" ∧ s.get? silence.id = none)) := by
  have hmatchers : (SilenceRecord.ofSilence silence).matchers ≠ [] ↔ silence.matchers ≠ [] :=
    not_congr List.map_eq_nil_iff
  have hnames : (∀ m ∈ (SilenceRecord.ofSilence silence).matchers, m.name ≠ "") ↔
      ∀ m ∈ silence.matchers, m.name ≠ "" := List.forall_mem_map
  have hwindow : (SilenceRecord.ofSilence silence).startsAt ≤
      (SilenceRecord.ofSilence silence).endsAt ↔ ¬ silence.endsAt < silence.startsAt := Iff.rfl
  rw [checkWindow_eq_ok_iff, check_eq_ok_iff, hmatchers, hnames, hwindow]
  unfold Refuses
  grind

/-- A silence that a client has sent is refused, or it is stored as it is. -/
theorem createAs_cases (fresh : String) (s : SilenceStore) (silence : Silence) (now : Instant) :
    (s.Refuses silence now ∧ ∃ e, createAs fresh (.up s) silence now = (.error e, .up s)) ∨
    (¬ s.Refuses silence now ∧ ∃ n, createAs fresh (.up s) silence now =
      (.ok (silence.idOr fresh), .up ⟨s.records.insert (silence.idOr fresh)
        (.ofSilence (silence.storedAs (silence.idOr fresh) now)), n⟩)) := by
  rw [refuses_iff, Classical.not_not]
  cases hwindow : checkWindow silence now with
  | error e =>
      refine .inl ⟨fun h => ?_, e, by rw [createAs, hwindow]⟩
      cases h.1
  | ok u =>
      have hcreate : createAs fresh (.up s) silence now =
          (Remote.up s).change fun s => s.write fresh (.ofSilence silence) now := by
        rw [createAs, hwindow]
      cases hwrite : s.write fresh (.ofSilence silence) now with
      | error e =>
          refine .inl ⟨fun h => ?_, e, by rw [hcreate, Remote.change_up_of_error hwrite]⟩
          rw [write_eq_ok_iff.mpr ⟨h.2.1, h.2.2, rfl⟩] at hwrite
          cases hwrite
      | ok p =>
          obtain ⟨hcheck, hknown, rfl⟩ := write_eq_ok_iff.mp hwrite
          exact .inr ⟨⟨rfl, hcheck, hknown⟩, _, by rw [hcreate, Remote.change_up_of_ok hwrite]⟩

/-- A stored record is ended unless it is over: its end moves to `now`, and its start as well if it
lies ahead. -/
theorem ended_eq_ok_iff : ended id r now = .ok r' ↔
    r.stateAt now ≠ .expired ∧
    r' = { r with startsAt := r.startsAt.min now, endsAt := now, updatedAt := now } := by
  unfold ended SilenceRecord.stateAt SilenceState.ofWindow Instant.min
  by_cases hpending : now < r.startsAt
  · simp [hpending, eq_comm]
  · by_cases hactive : now < r.endsAt
    · simp [hpending, hactive, eq_comm]
    · simp [hpending, hactive]

/-- A silence is not ended, or the record under its id is replaced. -/
theorem expire_cases (s : SilenceStore) (id : String) (now : Instant) :
    (∃ e, (Remote.up s).change (·.expire id now) = (.error e, .up s)) ∨
    (∃ r r', s.get? id = some r ∧ ended id r now = .ok r' ∧
      (Remote.up s).change (·.expire id now) =
        (.ok (), .up ⟨s.records.insert id r', s.issued⟩)) := by
  cases hget : s.get? id with
  | none => exact .inl ⟨_, Remote.change_up_of_error (by rw [expire, hget])⟩
  | some r =>
      have hexpire : s.expire id now =
          (ended id r now).map fun r => ((), ⟨s.records.insert id r, s.issued⟩) := by
        rw [expire, hget]
      cases hended : ended id r now with
      | error e => exact .inl ⟨e, Remote.change_up_of_error (by rw [hexpire, hended]; rfl)⟩
      | ok r' =>
          exact .inr ⟨r, r', rfl, hended, Remote.change_up_of_ok (by rw [hexpire, hended]; rfl)⟩

/-! ### Runs -/

theorem get?_insert_cases {key : String} {n : Nat}
    (h : (SilenceStore.mk (s.records.insert key r') n).get? id = some r) :
    (id = key ∧ r = r') ∨ (id ≠ key ∧ s.get? id = some r) := by
  by_cases hid : id = key
  · subst hid
    exact .inl ⟨rfl, Option.some.inj (h.symm.trans (SortedMap.get?_insert_self _ _ _))⟩
  · exact .inr ⟨hid, (SortedMap.get?_insert_of_ne _ _ hid).symm.trans h⟩

/-- From `s`, requests to create and to end silences lead to a store, having written under the ids
on the list.  The ids of new silences may be any. -/
inductive Run (s : SilenceStore) : List String → SilenceStore → Prop where
  | refl : Run s [] s
  | create {ids : List String} {s' : SilenceStore} (h : Run s ids s') (fresh : String)
      (silence : Silence) (now : Instant) :
      Run s (ids ++ (createAs fresh (.up s') silence now).1.toOption.toList)
        (createAs fresh (.up s') silence now).2.store
  | expire {ids : List String} {s' : SilenceStore} (h : Run s ids s') (id : String)
      (now : Instant) :
      Run s (ids ++ (((Remote.up s').change (·.expire id now)).1.map fun _ => id).toOption.toList)
        ((Remote.up s').change (·.expire id now)).2.store

/-- A step of a run writes one record, or none.  What holds of the records of the first store, of
every silence that is stored, and of every record that is ended, holds of all records. -/
theorem Run.forall_record {P : String → SilenceRecord → Prop} (h : s.Run ids s')
    (hs : ∀ id r, s.get? id = some r → P id r)
    (hcreate : ∀ s silence now id, ¬ Refuses s silence now →
      P id (.ofSilence (silence.storedAs id now)))
    (hended : ∀ id r r' now, P id r → ended id r now = .ok r' → P id r') :
    ∀ id r, s'.get? id = some r → P id r := by
  -- A look-up after a step finds the record that was written, or one that was there before.
  induction h with
  | refl => exact hs
  | @create _ s' _ fresh silence now ih =>
      rcases createAs_cases fresh s' silence now with ⟨-, e, h⟩ | ⟨hok, n, h⟩
      · rw [h]
        exact ih
      · intro id r hr
        rw [h] at hr
        rcases get?_insert_cases hr with ⟨rfl, rfl⟩ | ⟨-, hr⟩
        · exact hcreate s' silence now _ hok
        · exact ih id r hr
  | @expire _ s' _ key now ih =>
      rcases expire_cases s' key now with ⟨e, h⟩ | ⟨r₀, r', hr₀, hr', h⟩
      · rw [h]
        exact ih
      · intro id r hr
        rw [h] at hr
        rcases get?_insert_cases hr with ⟨rfl, rfl⟩ | ⟨-, hr⟩
        · exact hended _ r₀ _ now (ih _ r₀ hr₀) hr'
        · exact ih id r hr

/-- Nothing is written but under the ids on the list. -/
theorem Run.get?_of_notMem (h : s.Run ids s') (hid : id ∉ ids) : s'.get? id = s.get? id := by
  induction h with
  | refl => rfl
  | @create _ s' _ fresh silence now ih =>
      obtain ⟨hold, hnew⟩ := not_or.mp (mt List.mem_append.mpr hid)
      rcases createAs_cases fresh s' silence now with ⟨-, e, h⟩ | ⟨-, n, h⟩
      · rw [h]
        exact ih hold
      · rw [h] at hnew ⊢
        have hne : id ≠ silence.idOr fresh := List.ne_of_not_mem_cons hnew
        exact (SortedMap.get?_insert_of_ne _ _ hne).trans (ih hold)
  | @expire _ s' _ key now ih =>
      obtain ⟨hold, hnew⟩ := not_or.mp (mt List.mem_append.mpr hid)
      rcases expire_cases s' key now with ⟨e, h⟩ | ⟨r, r', -, -, h⟩
      · rw [h]
        exact ih hold
      · rw [h] at hnew ⊢
        have hne : id ≠ key := List.ne_of_not_mem_cons hnew
        exact (SortedMap.get?_insert_of_ne _ _ hne).trans (ih hold)

theorem Run.sound (h : empty.Run ids s) : ∀ id r, s.get? id = some r → r.Sound id := by
  have hcreate : ∀ s silence now id, ¬ Refuses s silence now →
      SilenceRecord.Sound id (.ofSilence (silence.storedAs id now)) := by
    intro s silence now id hok
    rw [refuses_iff, Classical.not_not, check_eq_ok_iff] at hok
    obtain ⟨-, ⟨hmatchers, hnames, hwindow⟩, -⟩ := hok
    exact ⟨rfl, hmatchers, hnames, hwindow⟩
  have hended : ∀ id r r' now, r.Sound id → ended id r now = .ok r' → r'.Sound id := by
    intro id r r' now hr hr'
    obtain ⟨-, rfl⟩ := ended_eq_ok_iff.mp hr'
    exact ⟨hr.filed, hr.conditional, hr.named, Instant.min_le_right _ _⟩
  exact h.forall_record nofun hcreate hended

theorem find_of_get? (h : s.get? id = some (.ofSilence silence)) :
    s.find id now = .ok (silence.withState now) := by
  rw [find, h]
  simp only [SilenceRecord.toSilence_ofSilence]
  rfl

/-- **The contract of the silence store.**  Every stored record has the id under which it is found,
matchers, all of them with names, and a window that is not upside down.  A silence is refused for
the reasons of `Refuses` and for no other, and then nothing is stored.  Otherwise it is stored under
its id or a new one, no other record changes, and until the next write under this id it is found as
it was sent. -/
theorem store_contract (h : empty.Run ids s) :
    (∀ id r, s.get? id = some r → r.Sound id) ∧
    ∀ fresh silence now, let outcome := createAs fresh (.up s) silence now
      ((∃ e, outcome.1 = .error e) ↔ s.Refuses silence now) ∧
      (∀ e, outcome.1 = .error e → outcome.2 = .up s) ∧
      ∀ id, outcome.1 = .ok id →
        id = silence.idOr fresh ∧
        (∀ other, other ≠ id → outcome.2.store.get? other = s.get? other) ∧
        ∀ later s', outcome.2.store.Run later s' → id ∉ later → ∀ t,
          s'.find id t = .ok { silence with
            id := id
            updatedAt := now
            state := some (.ofWindow silence.startsAt silence.endsAt t) } := by
  refine ⟨h.sound, fun fresh silence now => ?_⟩
  rcases createAs_cases fresh s silence now with ⟨hrefuses, e, hcreate⟩ | ⟨hok, n, hcreate⟩
  · rw [hcreate]
    exact ⟨⟨fun _ => hrefuses, fun _ => ⟨e, rfl⟩⟩, fun _ _ => rfl, fun _ hid => (nomatch hid)⟩
  · rw [hcreate]
    refine ⟨⟨fun ⟨_, he⟩ => (nomatch he), fun hrefuses => absurd hrefuses hok⟩,
      fun _ he => (nomatch he), fun id hid => ?_⟩
    cases hid
    refine ⟨rfl, fun other hother => SortedMap.get?_insert_of_ne _ _ hother,
      fun later s' hlater hid t => ?_⟩
    exact find_of_get? ((hlater.get?_of_notMem hid).trans (SortedMap.get?_insert_self _ _ _))

/-- A stored silence that is replaced is found as it was last sent, after another one has come and
gone. -/
theorem store_contract_bystander :
    let silence : Silence := ⟨"", [.equal "job" "api"], ⟨0, 0⟩, ⟨9, 0⟩, ⟨0, 0⟩, "me", "", none⟩
    let edited : Silence := { silence with id := "u-1", comment := "planned" }
    let first := createAs "u-1" (.up empty) silence ⟨1, 0⟩
    let second := createAs "u-2" (.up first.2.store) edited ⟨2, 0⟩
    let third := createAs "u-3" (.up second.2.store) silence ⟨3, 0⟩
    let last := ((Remote.up third.2.store).change (·.expire "u-3" ⟨4, 0⟩)).2.store
    second.1 = .ok "u-1" ∧ last.get? "u-3" ≠ none ∧
      last.find "u-1" ⟨5, 0⟩ = .ok { edited with updatedAt := ⟨2, 0⟩, state := some .active } := by
  intro silence edited first second third last
  have hfirst := (Run.refl (s := empty)).create "u-1" silence ⟨1, 0⟩
  have hlater := ((Run.refl (s := second.2.store)).create "u-3" silence ⟨3, 0⟩).expire "u-3" ⟨4, 0⟩
  have hsecond : second.1 = .ok "u-1" := Except.toOption_eq_some_iff.mp (by decide +kernel)
  have hfound := (((store_contract hfirst).2 "u-2" edited ⟨2, 0⟩).2.2 "u-1" hsecond).2.2
  exact ⟨hsecond, by decide +kernel, hfound _ last hlater (by decide +kernel) ⟨5, 0⟩⟩

end SilenceStore

end AlertRouter
