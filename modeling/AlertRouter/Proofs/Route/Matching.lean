import AlertRouter.Proofs.Route.Compile

/-! # Where an alert is routed to

Whether an alert is routed anywhere is up to the root alone (`matching_eq_nil_iff`): below the root
nothing can get lost, since a node that no child takes over stays with its alert.

`places` has the addresses of the nodes that `matching` gives, in the same order
(`map_value?_places`).  They depend only on the matchers of the nodes and on which nodes let an
alert continue (`places_congr`), not on their options. -/

namespace AlertRouter

open AlertRouter.Tree (Address)

/-- What decides about the way of an alert at a node. -/
def RouteNode.guard (n : RouteNode) : List Matcher × Bool := (n.matchers, n.continues)

namespace Route

variable {labels : LabelSet} {t : Route}

/-- An alert is routed nowhere if and only if the root does not accept it. -/
theorem matching_eq_nil_iff : matching labels t = [] ↔ accepts labels t.value = false := by
  obtain ⟨n, rs⟩ := t
  unfold matching
  cases haccepts : accepts labels n with
  | false => simpa [Tree.value] using haccepts
  | true =>
      simp only [Tree.value, haccepts, if_true, Bool.true_eq_false, iff_false]
      split
      · simp
      · next hbelow => exact hbelow

theorem receiversFor_ne_nil_iff :
    receiversFor t labels ≠ [] ↔ ∀ m ∈ t.value.matchers, m.holdsOf labels = true := by
  unfold receiversFor
  rw [Ne, List.map_eq_nil_iff, matching_eq_nil_iff, Bool.not_eq_false, accepts, List.all_eq_true]

/-! ### Addresses -/

mutual

/-- The addresses of the nodes where an alert with these labels ends up. -/
def places (labels : LabelSet) : Route → List Address
  | .node n rs =>
    if accepts labels n then
      match placesBelow labels 0 rs with
      | [] => [[]]
      | ps => ps
    else []

/-- The addresses of the nodes where the alert ends up below a node, given the children that are
left, the first of which is the child `i`. -/
def placesBelow (labels : LabelSet) (i : Nat) : List Route → List Address
  | [] => []
  | r :: rs =>
    let ps := (places labels r).map (i :: ·)
    if ps.isEmpty || r.value.continues then ps ++ placesBelow labels (i + 1) rs else ps

end

mutual

/-- **The nodes where an alert ends up are those at its places.** -/
theorem map_value?_places (labels : LabelSet) : ∀ t : Route,
    (places labels t).map t.value? = (matching labels t).map some
  | .node n rs => by
      unfold places matching
      split
      · have hbelow := map_value?_placesBelow labels n [] rs
        rw [List.length_nil, List.nil_append] at hbelow
        cases hplaces : placesBelow labels 0 rs with
        | nil =>
            rw [hplaces, List.map_nil, eq_comm, List.map_eq_nil_iff] at hbelow
            rw [hbelow]
            rfl
        | cons p ps =>
            rw [hplaces] at hbelow
            cases hmatching : matchingBelow labels rs with
            | nil => simp [hmatching] at hbelow
            | cons m ms => rwa [hmatching] at hbelow
      · rfl

theorem map_value?_placesBelow (labels : LabelSet) (n : RouteNode) (before : List Route) :
    ∀ rs : List Route,
    (placesBelow labels before.length rs).map (Tree.node n (before ++ rs)).value? =
      (matchingBelow labels rs).map some
  | [] => rfl
  | r :: rs => by
      have hhead : ((places labels r).map (before.length :: ·)).map
          (Tree.node n (before ++ r :: rs)).value? = (matching labels r).map some := by
        rw [← map_value?_places labels r, List.map_map]
        apply List.map_congr_left
        intro p _
        rw [Function.comp_apply, Tree.value?_cons, Tree.children,
          List.getElem?_append_right (Nat.le_refl _), Nat.sub_self]
        rfl
      have htail := map_value?_placesBelow labels n (before ++ [r]) rs
      rw [List.length_append, List.length_singleton, List.append_assoc, List.singleton_append]
        at htail
      have hempty : ((places labels r).map (before.length :: ·)).isEmpty =
          (matching labels r).isEmpty := by
        rw [← List.isEmpty_map (f := (Tree.node n (before ++ r :: rs)).value?), hhead,
          List.isEmpty_map]
      unfold placesBelow matchingBelow
      simp only [hempty]
      split
      · rw [List.map_append, List.map_append, hhead, htail]
      · exact hhead

end

theorem mem_matching {n : RouteNode} (h : n ∈ matching labels t) : ∃ p, t.value? p = some n := by
  have hmem : some n ∈ (matching labels t).map some := List.mem_map_of_mem h
  rw [← map_value?_places] at hmem
  obtain ⟨p, -, hp⟩ := List.mem_map.mp hmem
  exact ⟨p, hp⟩

/-! ### What places depend on -/

mutual

/-- Trees with the same guards at the same addresses lead an alert to the same places. -/
theorem places_congr (labels : LabelSet) : ∀ t t' : Route,
    (∀ p, (t.value? p).map RouteNode.guard = (t'.value? p).map RouteNode.guard) →
    places labels t = places labels t'
  | .node n rs, .node n' rs', h => by
      have hroot : n.guard = n'.guard := Option.some.inj (h [])
      have haccepts : accepts labels n = accepts labels n' := by
        unfold accepts
        rw [(Prod.mk.inj hroot).1]
      have hbelow := placesBelow_congr labels rs rs' 0 fun i p => h (i :: p)
      unfold places
      rw [haccepts, hbelow]

theorem placesBelow_congr (labels : LabelSet) : ∀ (rs rs' : List Route) (i : Nat),
    (∀ (j : Nat) (p : Address), (rs[j]?.bind (·.value? p)).map RouteNode.guard =
      (rs'[j]?.bind (·.value? p)).map RouteNode.guard) →
    placesBelow labels i rs = placesBelow labels i rs'
  | [], [], _, _ => rfl
  | [], _ :: _, _, h => nomatch h 0 []
  | _ :: _, [], _, h => nomatch h 0 []
  | r :: rs, r' :: rs', i, h => by
      have hhead := places_congr labels r r' fun p => h 0 p
      have hroot : r.value.guard = r'.value.guard := Option.some.inj (h 0 [])
      have htail := placesBelow_congr labels rs rs' (i + 1) fun j p => h (j + 1) p
      unfold placesBelow
      rw [hhead, htail, (Prod.mk.inj hroot).2]

end

end Route

end AlertRouter
