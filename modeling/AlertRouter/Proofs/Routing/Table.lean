import AlertRouter.Proofs.Outcome
import AlertRouter.Routing.Table
import Mathlib.Data.List.Induction

/-! # What a routing table is built from

`RoutingTable.ofConfig` adds the receivers of a configuration one after another.  `Serves` says what
comes of it without mentioning an order: the receivers have different names, these are the names of
the table, and each has the integrations that are built from its receiver.  The look-ups of a table
determine it, so the two agree (`ofConfig_eq_ok_iff`).

`Serves.add` and `Serves.delete` say how receivers and table are changed together. -/

namespace AlertRouter

namespace RoutingTable

variable {g : GlobalConfig} {registry : Registry} {link : Option Url} {rs : List Receiver}
  {m : SortedMap String (List Integration)} {t t' : RoutingTable}

theorem add_eq_ok_iff {name : String} {is : List Integration} :
    t.add name is = .ok t' ↔
      t.contains name = false ∧ t' = { t with receivers := t.receivers.insert name is } := by
  unfold add
  cases t.contains name with
  | true => simp
  | false => simp [eq_comm]

theorem delete_eq_ok_iff {name : String} {p : List Integration × RoutingTable} :
    t.delete name = .ok p ↔ ∃ is, t.receivers.get? name = some is ∧
      p = (is, { t with receivers := t.receivers.erase name }) := by
  unfold delete
  cases t.receivers.get? name with
  | none => simp
  | some is => simp [eq_comm]

/-- A table can have the integrations of a receiver replaced if it knows the receiver. -/
theorem replace_eq_ok_iff {name : String} {is : List Integration} :
    t.replace name is = .ok t' ↔ t.contains name = true ∧
      t' = { t with receivers := (t.receivers.erase name).insert name is } := by
  simp only [replace, Except.bind_eq_ok_iff, delete_eq_ok_iff, add_eq_ok_iff, contains,
    SortedMap.contains, Option.isSome_iff_exists]
  constructor
  · rintro ⟨_, ⟨old, hold, rfl⟩, -, rfl⟩
    exact ⟨⟨old, hold⟩, rfl⟩
  · rintro ⟨⟨old, hold⟩, rfl⟩
    exact ⟨_, ⟨old, hold, rfl⟩, by simp [SortedMap.get?_erase], rfl⟩

/-! ### Receivers and the integrations of a table -/

/-- The map has the names of the receivers, which are different, and each name has the integrations
of its receiver. -/
structure Serves (g : GlobalConfig) (registry : Registry) (link : Option Url) (rs : List Receiver)
    (m : SortedMap String (List Integration)) : Prop where
  distinct : (rs.map (·.name)).Nodup
  built : ∀ r ∈ rs, ∃ is, buildResolved g registry link r = .ok is ∧ m.get? r.name = some is
  known : ∀ name, m.contains name = true → name ∈ rs.map (·.name)

theorem Serves.contains_iff (h : Serves g registry link rs m) {name : String} :
    m.contains name = true ↔ name ∈ rs.map (·.name) := by
  refine ⟨h.known name, fun hmem => ?_⟩
  obtain ⟨r, hr, rfl⟩ := List.mem_map.mp hmem
  obtain ⟨is, -, his⟩ := h.built r hr
  simp [SortedMap.contains, his]

theorem Serves.empty : Serves g registry link [] .empty where
  distinct := List.nodup_nil
  built := by simp
  known := by simp [SortedMap.contains, SortedMap.get?_empty]

/-- Nothing but the map of no receiver serves no receiver. -/
theorem Serves.eq_empty (h : Serves g registry link [] m) : m = .empty := by
  apply SortedMap.ext_get?
  intro name
  have hnone : m.contains name ≠ true := fun hc => by simpa using h.known name hc
  simpa [SortedMap.contains, SortedMap.get?_empty] using hnone

theorem Serves.add {r : Receiver} {is : List Integration} (h : Serves g registry link rs m)
    (hr : m.contains r.name = false) (his : buildResolved g registry link r = .ok is) :
    Serves g registry link (rs ++ [r]) (m.insert r.name is) := by
  have hnew : r.name ∉ rs.map (·.name) := fun hmem => by
    rw [← h.contains_iff, hr] at hmem
    cases hmem
  refine ⟨?_, ?_, ?_⟩
  · rw [List.map_append, List.nodup_append]
    refine ⟨h.distinct, by simp, ?_⟩
    rintro name hname _ hsingle rfl
    rw [List.map_singleton, List.mem_singleton] at hsingle
    exact hnew (hsingle ▸ hname)
  · intro r' hr'
    rcases List.mem_append.mp hr' with hr' | hr'
    · obtain ⟨is', hbuilt, hget⟩ := h.built r' hr'
      have hne : r'.name ≠ r.name := fun e => hnew (e ▸ List.mem_map_of_mem hr')
      exact ⟨is', hbuilt, by rw [SortedMap.get?_insert_of_ne _ _ hne, hget]⟩
    · rw [List.mem_singleton] at hr'
      subst hr'
      exact ⟨is, his, SortedMap.get?_insert_self _ _ _⟩
  · intro name hname
    rw [List.map_append, List.mem_append]
    by_cases e : name = r.name
    · exact .inr (by simp [e])
    · refine .inl (h.known name ?_)
      rwa [SortedMap.contains, SortedMap.get?_insert_of_ne _ _ e] at hname

theorem Serves.delete (h : Serves g registry link rs m) (name : String) :
    Serves g registry link (rs.filter (·.name != name)) (m.erase name) := by
  refine ⟨?_, ?_, ?_⟩
  · exact h.distinct.sublist (List.filter_sublist.map _)
  · intro r hr
    obtain ⟨hr, hne⟩ := List.mem_filter.mp hr
    obtain ⟨is, hbuilt, hget⟩ := h.built r hr
    refine ⟨is, hbuilt, ?_⟩
    have hne : ¬ compare name r.name = .eq := fun e => by
      rw [Std.LawfulEqCmp.eq_of_compare e] at hne
      simp at hne
    rw [SortedMap.get?_erase, if_neg hne, hget]
  · intro other hother
    rw [SortedMap.contains, SortedMap.get?_erase] at hother
    split at hother
    · cases hother
    · next hne =>
        obtain ⟨r, hr, rfl⟩ := List.mem_map.mp (h.known other hother)
        refine List.mem_map_of_mem (List.mem_filter.mpr ⟨hr, ?_⟩)
        have hne : r.name ≠ name := fun e => hne (by rw [e]; exact Std.ReflCmp.compare_self)
        simpa using hne

/-- Taking out the receiver that was added last. -/
theorem Serves.of_concat {r : Receiver} (h : Serves g registry link (rs ++ [r]) m) :
    Serves g registry link rs (m.erase r.name) := by
  have hfilter : (rs ++ [r]).filter (·.name != r.name) = rs := by
    have hnew := h.distinct
    rw [List.map_append, List.nodup_append] at hnew
    rw [List.filter_append, List.filter_eq_self.mpr, List.filter_eq_nil_iff.mpr (by simp),
      List.append_nil]
    intro r' hr'
    have hne := hnew.2.2 r'.name (List.mem_map_of_mem hr') r.name (by simp)
    simpa using hne
  have herase := h.delete r.name
  rwa [hfilter] at herase

/-! ### The table of a configuration -/

theorem foldlM_add_eq_ok_iff {route : Route} :
    rs.foldlM (fun t receiver =>
      (buildResolved g registry link receiver).bind fun is => t.add receiver.name is)
      (ofRoute route) = .ok t ↔ t.route = route ∧ Serves g registry link rs t.receivers := by
  induction rs using List.reverseRecOn generalizing t with
  | nil =>
      simp only [List.foldlM_nil, Except.pure_def, Except.ok.injEq]
      constructor
      · rintro rfl
        exact ⟨rfl, .empty⟩
      · rintro ⟨rfl, h⟩
        simp [ofRoute, ← h.eq_empty]
  | append_singleton rs r ih =>
      simp only [List.foldlM_append, List.foldlM_cons, List.foldlM_nil, Except.bind_def,
        Except.pure_def, Except.bind_eq_ok_iff, ih, add_eq_ok_iff, Except.ok.injEq]
      constructor
      · rintro ⟨t, ⟨rfl, h⟩, _, ⟨is, his, hnew, rfl⟩, rfl⟩
        exact ⟨rfl, h.add hnew his⟩
      · rintro ⟨rfl, h⟩
        obtain ⟨is, his, hget⟩ := h.built r (by simp)
        refine ⟨{ t with receivers := t.receivers.erase r.name }, ⟨rfl, h.of_concat⟩, _,
          ⟨is, his, by simp [contains, SortedMap.contains, SortedMap.get?_erase], rfl⟩, ?_⟩
        rw [SortedMap.insert_erase_self hget]

/-- A table is that of a configuration if it has the compiled routes and serves the receivers. -/
theorem ofConfig_eq_ok_iff {c : Config} :
    ofConfig c registry link = .ok t ↔
      Route.ofConfig c.route = .ok t.route ∧
        Serves c.global registry link c.receivers t.receivers := by
  simp only [ofConfig, Except.bind_eq_ok_iff, foldlM_add_eq_ok_iff]
  constructor
  · rintro ⟨_, hroute, rfl, h⟩
    exact ⟨hroute, h⟩
  · rintro ⟨hroute, h⟩
    exact ⟨_, hroute, rfl, h⟩

end RoutingTable

end AlertRouter
