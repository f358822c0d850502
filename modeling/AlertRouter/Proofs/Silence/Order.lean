import AlertRouter.Proofs.Silence.Listing
import Mathlib.Data.List.Nodup

/-! # Listings and the order of a store

A store gives its records in any order.  A listing arranges them by a time, and silences in the same
`Place`, that is in the same state and at the same time, are listed in the order in which they come
(`Silence.filter_place_arrange`).  So from two orders of the records come two listings of the same
silences, with the same places one after the other.  They are the same listing, whatever the orders,
exactly if no two of the silences share a place (`Silence.same_listing_iff`): those that do are
listed the other way round when the records come the other way round. -/

namespace AlertRouter

/-- Where a silence stands in a listing: in the group of its state, at a time. -/
structure Place where
  state : SilenceState
  time : Instant
deriving DecidableEq, Repr

namespace Place

/-- The order of the groups, and of the times in each of them. -/
def Le (p q : Place) : Prop :=
  match p.state, q.state with
  | .active, .active | .pending, .pending => p.time ≤ q.time
  | .expired, .expired => q.time ≤ p.time
  | .active, _ | .pending, .expired => True
  | _, _ => False

theorem Le.antisymm {p q : Place} (hpq : p.Le q) (hqp : q.Le p) : p = q := by
  obtain ⟨s, t⟩ := p
  obtain ⟨s', t'⟩ := q
  cases s <;> cases s' <;> simp only [Le] at hpq hqp
  · rw [Instant.le_antisymm hqp hpq]
  · rw [Instant.le_antisymm hpq hqp]
  · rw [Instant.le_antisymm hpq hqp]

end Place

namespace Silence

variable {records records' : List SilenceRecord}
  {silences silences' all found found' : List Silence} {filter : List Matcher} {now : Instant}
  {state : SilenceState} {x y : Silence}

def place (now : Instant) (x : Silence) : Place := ⟨x.stateAt now, x.timeIn (x.stateAt now)⟩

/-! ### Order of places -/

theorem Listed.place_of_mem (h : Listed silences filter now found) (hx : x ∈ found)
    (hstate : x.state = some state) : x.place now = ⟨state, x.timeIn state⟩ := by
  obtain ⟨y, -, rfl⟩ := List.mem_map.mp (h.perm.mem_iff.mp hx)
  rw [← Option.some.inj hstate]
  rfl

/-- A listing goes from place to place in their order. -/
theorem Listed.pairwise (h : Listed silences filter now found) :
    found.Pairwise fun x y => (x.place now).Le (y.place now) := by
  obtain ⟨active, pending, expired, hfound, hactive, hends, hpending, hstarts, hexpired, hback⟩ :=
    h.blocks
  have hfirst : ∀ x ∈ active, x.place now = ⟨.active, x.endsAt⟩ := fun x hx =>
    h.place_of_mem (by simp [hfound, hx]) (hactive x hx)
  have hsecond : ∀ x ∈ pending, x.place now = ⟨.pending, x.startsAt⟩ := fun x hx =>
    h.place_of_mem (by simp [hfound, hx]) (hpending x hx)
  have hthird : ∀ x ∈ expired, x.place now = ⟨.expired, x.endsAt⟩ := fun x hx =>
    h.place_of_mem (by simp [hfound, hx]) (hexpired x hx)
  rw [hfound, List.pairwise_append, List.pairwise_append]
  refine ⟨⟨?_, ?_, ?_⟩, ?_, ?_⟩
  · apply hends.imp_of_mem
    intro x y hx hy hle
    rw [hfirst x hx, hfirst y hy]
    exact hle
  · apply hstarts.imp_of_mem
    intro x y hx hy hle
    rw [hsecond x hx, hsecond y hy]
    exact hle
  · intro x hx y hy
    rw [hfirst x hx, hsecond y hy]
    trivial
  · apply hback.imp_of_mem
    intro x y hx hy hle
    rw [hthird x hx, hthird y hy]
    exact hle
  · intro x hx y hy
    rw [hthird y hy]
    rcases List.mem_append.mp hx with hx | hx
    · rw [hfirst x hx]
      trivial
    · rw [hsecond x hx]
      trivial

/-- Listings of the same silences have the same places one after the other. -/
theorem Listed.places_eq (h : Listed silences filter now found)
    (h' : Listed silences' filter now found') (hperm : found'.Perm found) :
    found'.map (·.place now) = found.map (·.place now) := by
  have hplaces : (found.map (·.place now)).Pairwise Place.Le := List.pairwise_map.mpr h.pairwise
  have hplaces' : (found'.map (·.place now)).Pairwise Place.Le := List.pairwise_map.mpr h'.pairwise
  exact (hperm.map _).eq_of_pairwise (fun p q _ _ => Place.Le.antisymm) hplaces' hplaces

theorem Listed.eq_of_nodup (h : Listed silences filter now found)
    (h' : Listed silences' filter now found') (hperm : found'.Perm found)
    (hnodup : (found.map (·.place now)).Nodup) : found' = found := by
  refine List.Perm.eq_of_pairwise ?_ h'.pairwise h.pairwise hperm
  intro x y hx hy hxy hyx
  exact List.inj_on_of_nodup_map hnodup (hperm.mem_iff.mp hx) hy (hxy.antisymm hyx)

/-! ### Silences in one place -/

/-- Of two silences in one place, neither one has to be listed first. -/
theorem before_of_place_eq (h : x.place now = y.place now) :
    before (x.stateAt now) x y = true := by
  have hstate : x.stateAt now = y.stateAt now := congrArg Place.state h
  have htime : x.timeIn (x.stateAt now) = y.timeIn (y.stateAt now) := congrArg Place.time h
  rw [← hstate] at htime
  cases hx : x.stateAt now <;> rw [hx] at htime <;> simp [before, htime, Instant.le_refl]

theorem filter_place_stateAt (now : Instant) (p : Place) (state : SilenceState)
    (all : List Silence) :
    (all.filter (·.stateAt now == state)).filter (·.place now = p) =
      if p.state = state then all.filter (·.place now = p) else [] := by
  rw [List.filter_filter]
  split
  · next hstate =>
      apply List.filter_congr
      intro x _
      by_cases hx : x.place now = p
      · simp [← hstate, ← hx, place]
      · simp [hx]
  · next hstate =>
      rw [List.filter_eq_nil_iff]
      intro x _ hx
      rw [Bool.and_eq_true, decide_eq_true_eq, beq_iff_eq] at hx
      obtain ⟨rfl, hx⟩ := hx
      exact hstate hx

theorem mergeSort_filter_place (now : Instant) (p : Place) (all : List Silence) :
    (all.filter (·.place now = p)).mergeSort (before p.state) = all.filter (·.place now = p) := by
  apply List.mergeSort_of_pairwise
  apply List.pairwise_of_forall_mem_list
  intro x hx y hy
  simp only [List.mem_filter, decide_eq_true_eq] at hx hy
  obtain ⟨-, rfl⟩ := hx
  exact before_of_place_eq hy.2.symm

/-- Silences in one place are listed in the order in which they come. -/
theorem filter_place_arrange (now : Instant) (p : Place) (all : List Silence) :
    (arrange now all).filter (·.place now = p) = all.filter (·.place now = p) := by
  have hgroup (state : SilenceState) :
      (inState state now (before state) all).filter (·.place now = p) =
        if p.state = state then all.filter (·.place now = p) else [] := by
    rw [inState, List.filter_mergeSort (before_trans state) (before_total state),
      filter_place_stateAt]
    split
    · next hstate => rw [← hstate, mergeSort_filter_place]
    · rw [List.mergeSort_nil]
  rw [arrange_eq, List.filter_append, List.filter_append, hgroup, hgroup, hgroup]
  cases p.state <;> simp

theorem arrange_eq_self {p : Place} (h : ∀ x ∈ all, x.place now = p) : arrange now all = all := by
  have hall : all.filter (·.place now = p) = all :=
    List.filter_eq_self.mpr fun x hx => decide_eq_true (h x hx)
  have harranged : (arrange now all).filter (·.place now = p) = arrange now all :=
    List.filter_eq_self.mpr fun x hx => decide_eq_true (h x ((arrange_perm now all).mem_iff.mp hx))
  rw [← harranged, filter_place_arrange, hall]

theorem length_le_one_of_reverse_eq {α : Type} {l : List α} (h : l.reverse = l) (hnodup : l.Nodup) :
    l.length ≤ 1 := by
  match l with
  | [] => simp
  | [a] => simp
  | a :: b :: l =>
      have hends := congrArg List.head? h
      rw [List.head?_reverse, List.head?_cons, List.getLast?_cons_cons] at hends
      exact absurd (List.mem_of_getLast? hends) (List.nodup_cons.mp hnodup).1

/-! ### Orders of a store -/

theorem selected_perm (h : records'.Perm records) :
    (selected records' filter now).Perm (selected records filter now) :=
  ((h.filterMap _).filter _).map _

theorem selected_reverse (records : List SilenceRecord) (filter : List Matcher) (now : Instant) :
    selected records.reverse filter now = (selected records filter now).reverse := by
  rw [selected, ofRecords, List.filterMap_reverse, List.filter_reverse, List.map_reverse]
  rfl

theorem nodup_selected (hread : ∀ r ∈ records, r.Readable) (hids : (records.map (·.id)).Nodup) :
    (selected records filter now).Nodup := by
  have hall : (ofRecords records).map (·.id) = records.map (·.id) := by
    have hall := map_id_filter_ofRecords (p := fun _ => true) (q := fun _ => true) hread
      fun _ _ _ => rfl
    rwa [List.filter_true, List.filter_true] at hall
  have hselected : ((selected records filter now).map (·.id)).Sublist (records.map (·.id)) := by
    rw [← hall, selected, List.map_map]
    exact List.filter_sublist.map _
  exact (hids.sublist hselected).of_map _

theorem nodup_places (h : ∀ p, (found.filter (·.place now = p)).length ≤ 1) :
    (found.map (·.place now)).Nodup := by
  rw [List.nodup_iff_count_le_one]
  intro p
  rw [List.count, List.countP_map, List.countP_eq_length_filter]
  exact h p

/-- **A listing depends on the order of the store exactly if two of the silences in it share a
place.**  In whatever order the store gives its records, a listing has the same silences, with the
same places one after the other.  If these places are different, it is the same listing in every
order.  If not, it is another one when the records come the other way round. -/
theorem same_listing_iff (hids : (records.map (·.id)).Nodup)
    (h : listing records filter now = .ok found) :
    (∀ records', records'.Perm records → ∃ found', listing records' filter now = .ok found' ∧
      found'.Perm found ∧ found'.map (·.place now) = found.map (·.place now)) ∧
    ((∀ records', records'.Perm records → listing records' filter now = .ok found) ↔
      (found.map (·.place now)).Nodup) := by
  have hlisted := listed_of_listing h
  obtain ⟨hread, rfl⟩ := listing_eq_ok_iff.mp h
  have hperm (records' : List SilenceRecord) (hrecords : records'.Perm records) :
      ∃ found', listing records' filter now = .ok found' ∧
        found'.Perm (arrange now (selected records filter now)) := by
    refine ⟨_, listing_eq_ok_iff.mpr ⟨fun r hr => hread r (hrecords.mem_iff.mp hr), rfl⟩, ?_⟩
    exact (arrange_perm _ _).trans ((selected_perm hrecords).trans (arrange_perm _ _).symm)
  refine ⟨fun records' hrecords => ?_, fun hsame => ?_, fun hnodup records' hrecords => ?_⟩
  · obtain ⟨found', hfound', hperm⟩ := hperm records' hrecords
    exact ⟨found', hfound', hperm, hlisted.places_eq (listed_of_listing hfound') hperm⟩
  · apply nodup_places
    intro p
    apply length_le_one_of_reverse_eq
    · -- The silences in one place are listed as they come, from either end of the records.
      have hturned := (listing_eq_ok_iff.mp (hsame _ records.reverse_perm)).2
      rw [selected_reverse] at hturned
      calc ((arrange now (selected records filter now)).filter (·.place now = p)).reverse
        _ = ((selected records filter now).reverse).filter (·.place now = p) := by
          rw [filter_place_arrange, List.filter_reverse]
        _ = (arrange now (selected records filter now)).filter (·.place now = p) := by
          rw [← hturned, filter_place_arrange]
    · exact ((arrange_perm _ _).nodup_iff.mpr (nodup_selected hread hids)).filter _
  · obtain ⟨found', hfound', hperm⟩ := hperm records' hrecords
    rw [hfound', hlisted.eq_of_nodup (listed_of_listing hfound') hperm hnodup]

/-- Two silences with different ends are listed in one way. -/
theorem same_listing_of_ends :
    let short : Silence := ⟨"u-1", [.equal "job" "api"], ⟨1, 0⟩, ⟨8, 0⟩, ⟨0, 0⟩, "me", "", none⟩
    let long : Silence := { short with id := "u-2", endsAt := ⟨9, 0⟩ }
    let records := [long, short].map SilenceRecord.ofSilence
    ∃ found, listing records [] ⟨4, 0⟩ = .ok found ∧
      ∀ records', records'.Perm records → listing records' [] ⟨4, 0⟩ = .ok found := by
  intro short long records
  have hids : (records.map (·.id)).Nodup := by decide +kernel
  have hlisting : listing records [] ⟨4, 0⟩ = .ok (arrange ⟨4, 0⟩ (selected records [] ⟨4, 0⟩)) :=
    listing_eq_ok_iff.mpr ⟨readable_ofSilence _, rfl⟩
  have hplaces : ((arrange ⟨4, 0⟩ (selected records [] ⟨4, 0⟩)).map (·.place ⟨4, 0⟩)).Nodup :=
    ((arrange_perm _ _).map _).nodup_iff.mpr (by decide +kernel)
  exact ⟨_, hlisting, (same_listing_iff hids hlisting).2.mpr hplaces⟩

/-- Two silences that differ in their ids alone are listed in two ways. -/
theorem listing_as_they_come :
    let first : Silence := ⟨"u-1", [.equal "job" "api"], ⟨1, 0⟩, ⟨9, 0⟩, ⟨0, 0⟩, "me", "", none⟩
    let second : Silence := { first with id := "u-2" }
    listing ([first, second].map .ofSilence) [] ⟨4, 0⟩ =
      .ok [first.withState ⟨4, 0⟩, second.withState ⟨4, 0⟩] ∧
    listing ([second, first].map .ofSilence) [] ⟨4, 0⟩ =
      .ok [second.withState ⟨4, 0⟩, first.withState ⟨4, 0⟩] ∧
    first.withState ⟨4, 0⟩ ≠ second.withState ⟨4, 0⟩ := by
  intro first second
  have hlisting (silences : List Silence)
      (hplace : ∀ x ∈ silences.map (·.withState ⟨4, 0⟩), x.place ⟨4, 0⟩ = ⟨.active, ⟨9, 0⟩⟩)
      (hselected : selected (silences.map .ofSilence) [] ⟨4, 0⟩ =
        silences.map (·.withState ⟨4, 0⟩)) :
      listing (silences.map .ofSilence) [] ⟨4, 0⟩ = .ok (silences.map (·.withState ⟨4, 0⟩)) := by
    rw [← hselected] at hplace ⊢
    exact listing_eq_ok_iff.mpr ⟨readable_ofSilence _, arrange_eq_self hplace⟩
  refine ⟨hlisting [first, second] ?_ ?_, hlisting [second, first] ?_ ?_, ?_⟩ <;> decide +kernel

end Silence

end AlertRouter
