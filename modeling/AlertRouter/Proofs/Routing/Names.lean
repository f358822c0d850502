import AlertRouter.Proofs.Cut
import AlertRouter.Proofs.Routing.Table
import Mathlib.Data.List.Nodup

/-! # Names of integrations

The dispatcher knows an integration by its name.  Receivers may have any names, with slashes and
brackets in them, but what follows the last slash has been written by the program, so that the name
still tells the receiver, the kind and the number (`Integration.text_inj`).

Built together, the integrations of a receiver differ in kind or number, and in a table each stands
under the receiver that it is built for.  Hence in a table the name tells the integration
(`RoutingTable.Named.eq_of_text_eq`). -/

namespace AlertRouter

/-! ### What a name tells -/

theorem Kind.name_injective : Function.Injective Kind.name := by
  intro k k' h
  cases k <;> cases k' <;> first | rfl | simp [Kind.name] at h

theorem Kind.slash_notMem_name (k : Kind) : '/' ∉ k.name.toList := by
  cases k <;> decide

namespace Integration

/-- What the program itself writes into a name. -/
def suffix (i : Integration) : List Char :=
  i.kind.name.toList ++ '[' :: (Nat.toDigits 10 i.index ++ [']'])

theorem text_toList (i : Integration) : i.text.toList = i.receiver.toList ++ '/' :: i.suffix := by
  simp [text, suffix]

theorem notMem_toDigits {c : Char} (hc : c.isDigit = false) (n : Nat) : c ∉ Nat.toDigits 10 n := by
  intro h
  have hdigit := Nat.isDigit_of_mem_toDigits (by decide) (by decide) h
  rw [hc] at hdigit
  cases hdigit

theorem slash_notMem_suffix (i : Integration) : '/' ∉ i.suffix := by
  have hkind := i.kind.slash_notMem_name
  have hindex := notMem_toDigits (c := '/') rfl i.index
  simp [suffix, hkind, hindex]

theorem suffix_inj {i j : Integration} (h : i.suffix = j.suffix) :
    i.kind = j.kind ∧ i.index = j.index := by
  have hindex (n : Nat) : '[' ∉ Nat.toDigits 10 n ++ [']'] := by
    have hdigits := notMem_toDigits (c := '[') rfl n
    simp [hdigits]
  obtain ⟨hkind, hnumber⟩ := List.append_cons_inj_of_notMem_right (hindex _) (hindex _) h
  refine ⟨Kind.name_injective (String.toList_injective hkind), ?_⟩
  have hdigits := (List.append_left_inj _).mp hnumber
  calc
    i.index = Nat.ofDigitChars 10 (Nat.toDigits 10 i.index) 0 := Nat.ofDigitChars_ten_toDigits.symm
    _ = Nat.ofDigitChars 10 (Nat.toDigits 10 j.index) 0 := by rw [hdigits]
    _ = j.index := Nat.ofDigitChars_ten_toDigits

/-- **The name of an integration tells its receiver, its kind and its number.** -/
theorem text_inj {i j : Integration} (h : i.text = j.text) :
    i.receiver = j.receiver ∧ i.kind = j.kind ∧ i.index = j.index := by
  have hlist : i.receiver.toList ++ '/' :: i.suffix = j.receiver.toList ++ '/' :: j.suffix := by
    rw [← text_toList, ← text_toList, h]
  obtain ⟨hreceiver, hsuffix⟩ :=
    List.append_cons_inj_of_notMem_right i.slash_notMem_suffix j.slash_notMem_suffix hlist
  exact ⟨String.toList_injective hreceiver, suffix_inj hsuffix⟩

end Integration

/-! ### Integrations that are built together -/

namespace Registry

variable {registry : Registry} {link : Option Url}

/-- An endpoint is numbered by those of its kind before it. -/
theorem count_le_of_mem_numbered {seen : List Kind} {es : List Endpoint} {n : Nat} {e : Endpoint}
    (h : (n, e) ∈ numbered seen es) : seen.count e.kind ≤ n := by
  induction es generalizing seen with
  | nil => cases h
  | cons e' es ih =>
      rcases List.mem_cons.mp h with heq | hmem
      · cases heq
        exact Nat.le_refl _
      · have hle := ih hmem
        exact Nat.le_trans List.count_le_count_cons hle

theorem numbered_pairwise (seen : List Kind) (es : List Endpoint) :
    (numbered seen es).Pairwise fun x y => x.2.kind = y.2.kind → x.1 < y.1 := by
  induction es generalizing seen with
  | nil => exact .nil
  | cons e es ih =>
      refine List.pairwise_cons.mpr ⟨?_, ih _⟩
      rintro ⟨n, e'⟩ hmem hkind
      have hle := count_le_of_mem_numbered hmem
      rw [← hkind, List.count_cons_self] at hle
      exact hle

theorem integration_eq_ok {receiver : String} {x : Nat × Endpoint} {i : Integration}
    (h : registry.integration link receiver x = .ok i) :
    i.receiver = receiver ∧ i.kind = x.2.kind ∧ i.index = x.1 := by
  obtain ⟨notifier, -, rfl⟩ := Except.map_eq_ok_iff.mp h
  exact ⟨rfl, rfl, rfl⟩

theorem eq_map_ok_of_no_failure {α : Type} {l : List (Except AlertError α)}
    (h : l.filterMap failure? = []) : l = (l.filterMap Except.toOption).map .ok := by
  induction l with
  | nil => rfl
  | cons x l ih =>
      cases x with
      | error e => simp [failure?] at h
      | ok a =>
          have htail : l.filterMap failure? = [] := h
          exact congrArg (.ok a :: ·) (ih htail)

/-- A receiver is built if each of its endpoints is, and then it has their integrations in order. -/
theorem build_eq_ok_iff {receiver : Receiver} {is : List Integration} :
    registry.build link receiver = .ok is ↔
      (numbered [] receiver.endpoints).map (registry.integration link receiver.name) =
        is.map .ok := by
  unfold build
  simp only
  constructor
  · intro h
    split at h
    · next hfailures =>
        cases h
        exact eq_map_ok_of_no_failure hfailures
    · cases h
  · intro h
    have hfailures : (is.map .ok).filterMap failure? = [] := by
      simp [List.filterMap_map, Function.comp_def, failure?]
    have hbuilt : (is.map .ok).filterMap (Except.toOption (ε := AlertError)) = is := by
      simp [List.filterMap_map, Function.comp_def, Except.toOption]
    rw [h, hfailures, hbuilt]

/-- The integrations of a receiver bear its name, and no two have the same kind and number. -/
theorem build_names {receiver : Receiver} {is : List Integration}
    (h : registry.build link receiver = .ok is) :
    (∀ i ∈ is, i.receiver = receiver.name) ∧ (is.map Integration.text).Nodup := by
  have hbuilt := build_eq_ok_iff.mp h
  refine ⟨?_, ?_⟩
  · intro i hi
    have hmem : .ok i ∈ is.map (Except.ok (ε := AlertError)) := List.mem_map_of_mem hi
    rw [← hbuilt] at hmem
    obtain ⟨x, -, hx⟩ := List.mem_map.mp hmem
    exact (integration_eq_ok hx).1
  · have hpairwise : ((numbered [] receiver.endpoints).map
        (registry.integration link receiver.name)).Pairwise fun x y =>
          ∀ i j, x = .ok i → y = .ok j → i.text ≠ j.text := by
      rw [List.pairwise_map]
      refine (numbered_pairwise [] receiver.endpoints).imp ?_
      intro x y hlt i j hi hj htext
      obtain ⟨-, hkind, hindex⟩ := Integration.text_inj htext
      obtain ⟨-, hkindi, hindexi⟩ := integration_eq_ok hi
      obtain ⟨-, hkindj, hindexj⟩ := integration_eq_ok hj
      have hless := hlt (by rw [← hkindi, ← hkindj, hkind])
      omega
    rw [hbuilt, List.pairwise_map] at hpairwise
    exact List.pairwise_map.mpr (hpairwise.imp fun h => h _ _ rfl rfl)

end Registry

/-! ### Tables -/

theorem Receiver.resolve_name {g : GlobalConfig} {receiver resolved : Receiver}
    (h : receiver.resolve g = .ok resolved) : resolved.name = receiver.name := by
  obtain ⟨-, -, rfl⟩ := Except.map_eq_ok_iff.mp h
  rfl

namespace RoutingTable

variable {g : GlobalConfig} {registry : Registry} {link : Option Url} {rs : List Receiver}
  {m : SortedMap String (List Integration)} {t : RoutingTable}

/-- Each integration stands under the receiver that it belongs to, and those of one receiver have
different names. -/
structure Named (t : RoutingTable) : Prop where
  receiver : ∀ name is, t.receivers.get? name = some is → ∀ i ∈ is, i.receiver = name
  distinct : ∀ name is, t.receivers.get? name = some is → (is.map Integration.text).Nodup

theorem Serves.exists_built (h : Serves g registry link rs m) {name : String}
    {is : List Integration} (his : m.get? name = some is) :
    ∃ r ∈ rs, r.name = name ∧ buildResolved g registry link r = .ok is := by
  obtain ⟨r, hr, rfl⟩ := List.mem_map.mp (h.known name (by simp [SortedMap.contains, his]))
  obtain ⟨is', hbuilt, his'⟩ := h.built r hr
  rw [his] at his'
  cases his'
  exact ⟨r, hr, rfl, hbuilt⟩

theorem buildResolved_names {r : Receiver} {is : List Integration}
    (h : buildResolved g registry link r = .ok is) :
    (∀ i ∈ is, i.receiver = r.name) ∧ (is.map Integration.text).Nodup := by
  obtain ⟨resolved, hresolved, hbuild⟩ := Except.bind_eq_ok_iff.mp h
  have hnames := Registry.build_names hbuild
  rwa [Receiver.resolve_name hresolved] at hnames

/-- The table of a configuration is named. -/
theorem named_of_ofConfig {c : Config} (h : ofConfig c registry link = .ok t) : t.Named := by
  have hserves := (ofConfig_eq_ok_iff.mp h).2
  have hnames {name : String} {is : List Integration} (his : t.receivers.get? name = some is) :
      (∀ i ∈ is, i.receiver = name) ∧ (is.map Integration.text).Nodup := by
    obtain ⟨r, -, rfl, hbuilt⟩ := hserves.exists_built his
    exact buildResolved_names hbuilt
  exact ⟨fun _ _ his => (hnames his).1, fun _ _ his => (hnames his).2⟩

/-- **In a table the name tells the integration.** -/
theorem Named.eq_of_text_eq (h : t.Named) {name name' : String} {is is' : List Integration}
    {i j : Integration} (his : t.receivers.get? name = some is)
    (his' : t.receivers.get? name' = some is') (hi : i ∈ is) (hj : j ∈ is')
    (htext : i.text = j.text) : i = j := by
  obtain ⟨hreceiver, -, -⟩ := Integration.text_inj htext
  rw [h.receiver name is his i hi, h.receiver name' is' his' j hj] at hreceiver
  subst hreceiver
  rw [his] at his'
  cases his'
  exact List.inj_on_of_nodup_map (h.distinct name is his) hi hj htext

end RoutingTable

end AlertRouter
