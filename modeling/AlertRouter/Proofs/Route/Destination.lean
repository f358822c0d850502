import AlertRouter.Proofs.Route.Matching

/-! # Which nodes an alert ends up at

`Route.Destination` says of the address of a node, without following the alert through the tree,
when an alert ends up there: it is accepted on the whole way from the root, no child accepts it, and
nothing on the way is shadowed by an earlier sibling.

`Route.places` has exactly these addresses (`Route.mem_places_iff`), each node before those below it
and the children from left to right, which is the lexicographic order of the addresses
(`Route.pairwise_places`).  With `Route.map_value?_places` this describes what `Route.matching`
gives (`Route.matching_destinations`). -/

namespace AlertRouter

open AlertRouter.Tree (Address)

namespace Route

variable {labels : LabelSet} {n : RouteNode} {rs : List Route} {t : Route} {i : Nat} {p : Address}

/-- An alert with these labels ends up at the node with the address `p`. -/
structure Destination (labels : LabelSet) (t : Route) (p : Address) : Prop where
  /-- There are nodes on the whole way from the root, and they accept it. -/
  accepted : ∀ q, q <+: p → ∃ n, t.value? q = some n ∧ accepts labels n = true
  /-- No child of the node accepts it. -/
  deepest : ∀ i n, t.value? (p ++ [i]) = some n → accepts labels n = false
  /-- The earlier siblings of a node on the way that accept it let it continue. -/
  unshadowed : ∀ q i, q ++ [i] <+: p → ∀ j < i, ∀ n, t.value? (q ++ [j]) = some n →
    accepts labels n = true → n.continues = true

/-- The children of a node that come before the child `i` let an alert go on to it. -/
def LeftBy (labels : LabelSet) (rs : List Route) (i : Nat) : Prop :=
  ∀ j < i, ∀ r, rs[j]? = some r → accepts labels r.value = true → r.value.continues = true

theorem leftBy_zero : LeftBy labels rs 0 := fun _ hj => absurd hj (Nat.not_lt_zero _)

theorem leftBy_cons_succ_iff {r : Route} : LeftBy labels (r :: rs) (i + 1) ↔
    (accepts labels r.value = true → r.value.continues = true) ∧ LeftBy labels rs i := by
  constructor
  · intro h
    exact ⟨h 0 (Nat.succ_pos i) r rfl, fun j hj s hs => h (j + 1) (Nat.succ_lt_succ hj) s hs⟩
  · rintro ⟨hhead, htail⟩ j hj s hs
    cases j with
    | zero =>
        cases hs
        exact hhead
    | succ j => exact htail j (Nat.lt_of_succ_lt_succ hj) s hs

/-! ### Destinations at a node and below it -/

theorem value?_cons_of_getElem? {r : Route} (hr : rs[i]? = some r) (p : Address) :
    (Tree.node n rs).value? (i :: p) = r.value? p := by
  rw [Tree.value?_cons, Tree.children, hr]
  rfl

theorem value?_singleton_eq_some_iff {j : Nat} {m : RouteNode} :
    (Tree.node n rs).value? [j] = some m ↔ ∃ r, rs[j]? = some r ∧ r.value = m := by
  rw [Tree.value?_cons]
  exact Option.bind_eq_some_iff.trans (exists_congr fun r => and_congr_right fun _ => by simp)

theorem destination_nil_iff : Destination labels (.node n rs) [] ↔
    accepts labels n = true ∧ ∀ r ∈ rs, accepts labels r.value = false := by
  constructor
  · intro h
    obtain ⟨m, hm, haccepts⟩ := h.accepted [] List.prefix_rfl
    cases hm
    refine ⟨haccepts, fun r hr => ?_⟩
    obtain ⟨i, hi⟩ := List.mem_iff_getElem?.mp hr
    exact h.deepest i r.value (value?_singleton_eq_some_iff.mpr ⟨r, hi, rfl⟩)
  · rintro ⟨haccepts, hchildren⟩
    refine ⟨fun q hq => ?_, fun i m hm => ?_, fun q i hq => ?_⟩
    · obtain rfl := List.prefix_nil.mp hq
      exact ⟨n, rfl, haccepts⟩
    · obtain ⟨r, hr, rfl⟩ := value?_singleton_eq_some_iff.mp hm
      exact hchildren r (List.mem_of_getElem? hr)
    · simp at hq

theorem destination_cons_iff : Destination labels (.node n rs) (i :: p) ↔
    accepts labels n = true ∧ LeftBy labels rs i ∧
      ∃ r, rs[i]? = some r ∧ Destination labels r p := by
  constructor
  · intro h
    obtain ⟨m, hm, haccepts⟩ := h.accepted [] List.nil_prefix
    cases hm
    obtain ⟨m, hm, -⟩ := h.accepted [i] (by simp)
    obtain ⟨r, hr, -⟩ := value?_singleton_eq_some_iff.mp hm
    refine ⟨haccepts, ?_, r, hr, ?_, ?_, ?_⟩
    · intro j hj s hs
      exact h.unshadowed [] i (by simp) j hj s.value (value?_singleton_eq_some_iff.mpr ⟨s, hs, rfl⟩)
    · intro q hq
      rw [← value?_cons_of_getElem? hr]
      exact h.accepted (i :: q) (List.cons_prefix_cons.mpr ⟨rfl, hq⟩)
    · intro k m hm
      rw [← value?_cons_of_getElem? hr] at hm
      exact h.deepest k m hm
    · intro q k hq j hj m hm
      rw [← value?_cons_of_getElem? hr] at hm
      exact h.unshadowed (i :: q) k (List.cons_prefix_cons.mpr ⟨rfl, hq⟩) j hj m hm
  · rintro ⟨haccepts, hleft, r, hr, h⟩
    refine ⟨?_, ?_, ?_⟩
    · intro q hq
      cases q with
      | nil => exact ⟨n, rfl, haccepts⟩
      | cons k q =>
          obtain ⟨rfl, hprefix⟩ := List.cons_prefix_cons.mp hq
          rw [value?_cons_of_getElem? hr]
          exact h.accepted q hprefix
    · intro k m hm
      rw [List.cons_append, value?_cons_of_getElem? hr] at hm
      exact h.deepest k m hm
    · intro q k hq j hj m hm
      cases q with
      | nil =>
          obtain ⟨rfl, -⟩ := List.cons_prefix_cons.mp hq
          obtain ⟨s, hs, rfl⟩ := value?_singleton_eq_some_iff.mp hm
          exact hleft j hj s hs
      | cons l q =>
          obtain ⟨rfl, hprefix⟩ := List.cons_prefix_cons.mp hq
          rw [List.cons_append, value?_cons_of_getElem? hr] at hm
          exact h.unshadowed q k hprefix j hj m hm

/-! ### Places are destinations -/

theorem places_eq_nil_iff : places labels t = [] ↔ accepts labels t.value = false := by
  rw [← matching_eq_nil_iff, ← List.map_eq_nil_iff (f := t.value?), map_value?_places,
    List.map_eq_nil_iff]

/-- The places below a node are those below the first child, and those below the others if the first
child leaves the alert to them. -/
theorem mem_placesBelow_cons_iff {r : Route} {q : Address} :
    q ∈ placesBelow labels i (r :: rs) ↔ (∃ p ∈ places labels r, i :: p = q) ∨
      (accepts labels r.value = true → r.value.continues = true) ∧
        q ∈ placesBelow labels (i + 1) rs := by
  have hempty : ((places labels r).map (i :: ·)).isEmpty = !accepts labels r.value := by
    rw [List.isEmpty_map, Bool.eq_iff_iff, List.isEmpty_iff, places_eq_nil_iff, Bool.not_eq_true']
  rw [placesBelow]
  simp only [hempty]
  cases accepts labels r.value with
  | false => simp
  | true =>
      cases r.value.continues with
      | false => simp
      | true => simp

theorem placesBelow_eq_nil_iff :
    placesBelow labels i rs = [] ↔ ∀ r ∈ rs, accepts labels r.value = false := by
  induction rs generalizing i with
  | nil => simp [placesBelow]
  | cons r rs ih =>
      rw [placesBelow, List.forall_mem_cons, ← ih (i := i + 1), ← places_eq_nil_iff]
      cases places labels r with
      | nil => simp
      | cons p ps =>
          simp only [List.map_cons, List.isEmpty_cons, Bool.false_or, reduceCtorEq, false_and,
            iff_false]
          split
          · simp
          · simp

theorem mem_places_node_iff : p ∈ places labels (.node n rs) ↔ accepts labels n = true ∧
    (p = [] ∧ placesBelow labels 0 rs = [] ∨ p ∈ placesBelow labels 0 rs) := by
  rw [places]
  cases accepts labels n with
  | false => simp
  | true =>
      simp only [if_true, true_and]
      split
      · next hnone => simp [hnone]
      · next hsome => simp [show placesBelow labels 0 rs ≠ [] from hsome]

mutual

/-- **The places of an alert are its destinations.** -/
theorem mem_places_iff (labels : LabelSet) : ∀ (t : Route) (p : Address),
    p ∈ places labels t ↔ Destination labels t p
  | .node n rs, p => by
      have hbelow := mem_placesBelow_iff labels rs 0 p
      rw [mem_places_node_iff, placesBelow_eq_nil_iff, hbelow]
      cases p with
      | nil => simp [destination_nil_iff]
      | cons i p => simp [destination_cons_iff, and_assoc]

theorem mem_placesBelow_iff (labels : LabelSet) : ∀ (rs : List Route) (i : Nat) (q : Address),
    q ∈ placesBelow labels i rs ↔ ∃ j p, (i + j) :: p = q ∧ LeftBy labels rs j ∧
      ∃ r, rs[j]? = some r ∧ Destination labels r p
  | [], _, _ => by simp [placesBelow]
  | r :: rs, i, q => by
      have hhead := mem_places_iff labels r
      have htail := mem_placesBelow_iff labels rs (i + 1) q
      rw [mem_placesBelow_cons_iff, htail]
      constructor
      · rintro (⟨p, hp, rfl⟩ | ⟨hgoes, j, p, rfl, hleft, s, hs, h⟩)
        · exact ⟨0, p, rfl, leftBy_zero, r, rfl, (hhead p).mp hp⟩
        · exact ⟨j + 1, p, by rw [Nat.add_right_comm, Nat.add_assoc],
            leftBy_cons_succ_iff.mpr ⟨hgoes, hleft⟩, s, hs, h⟩
      · rintro ⟨j, p, rfl, hleft, s, hs, h⟩
        cases j with
        | zero =>
            cases hs
            exact .inl ⟨p, (hhead p).mpr h, rfl⟩
        | succ j =>
            obtain ⟨hgoes, hleft⟩ := leftBy_cons_succ_iff.mp hleft
            exact .inr ⟨hgoes, j, p, by rw [Nat.add_right_comm, Nat.add_assoc], hleft, s, hs, h⟩

end

/-! ### The order of the places -/

mutual

/-- The places come in the order of their addresses, so that none comes twice. -/
theorem pairwise_places (labels : LabelSet) : ∀ t : Route, (places labels t).Pairwise (· < ·)
  | .node n rs => by
      have hbelow := pairwise_placesBelow labels 0 rs
      rw [places]
      split
      · split
        · exact List.pairwise_singleton _ _
        · exact hbelow
      · exact .nil

theorem pairwise_placesBelow (labels : LabelSet) (i : Nat) : ∀ rs : List Route,
    (placesBelow labels i rs).Pairwise (· < ·)
  | [] => .nil
  | r :: rs => by
      have hhead : ((places labels r).map (i :: ·)).Pairwise (· < ·) := by
        refine (pairwise_places labels r).map _ ?_
        intro p q hpq
        exact List.cons_lt_cons_iff.mpr (.inr ⟨rfl, hpq⟩)
      have htail := pairwise_placesBelow labels (i + 1) rs
      rw [placesBelow]
      split
      · refine List.pairwise_append.mpr ⟨hhead, htail, ?_⟩
        intro p hp q hq
        obtain ⟨p, -, rfl⟩ := List.mem_map.mp hp
        obtain ⟨j, q, rfl, -⟩ := (mem_placesBelow_iff labels rs (i + 1) q).mp hq
        exact List.cons_lt_cons_iff.mpr (.inl (by omega))
      · exact hhead

end

theorem nodup_places (labels : LabelSet) (t : Route) : (places labels t).Nodup := by
  refine (pairwise_places labels t).imp ?_
  rintro p _ hlt rfl
  exact List.lt_irrefl p hlt

/-- **Routing, without following the alert.**  The nodes where an alert ends up are those at its
destinations, each once and in the order of a walk that takes every node before those below it and
the children from left to right.  There are none if and only if the root does not accept it. -/
theorem matching_destinations (labels : LabelSet) (t : Route) :
    (matching labels t).map some = (places labels t).map t.value? ∧
    (∀ p, p ∈ places labels t ↔ Destination labels t p) ∧
    (places labels t).Pairwise (· < ·) ∧ (places labels t).Nodup ∧
    (matching labels t = [] ↔ accepts labels t.value = false) :=
  ⟨(map_value?_places labels t).symm, mem_places_iff labels t, pairwise_places labels t,
    nodup_places labels t, matching_eq_nil_iff⟩

end Route

end AlertRouter
