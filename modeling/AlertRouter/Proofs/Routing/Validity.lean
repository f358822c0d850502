import AlertRouter.Proofs.Route.Matching
import AlertRouter.Proofs.Routing.Rebuild

/-! # What validation is worth

The routes of a consistent configuration can be compiled, and an alert is routed somewhere if and
only if the root accepts it (`Config.routed_iff_root_accepts`).  The root may have conditions of its
own like any other node, and then there are alerts that go nowhere.

The coordinator validates a configuration as a whole only when it starts and when it is updated.
What the other requests leave of its consistency is `Referring`: the names in the routes are those
of receivers, or of receivers that have been deleted since (`deletedNames`).  So a configuration
that nothing has been deleted from is still consistent (`Coordinator.validity_until_deletion`). -/

namespace AlertRouter

/-! ### Receivers that routes name -/

namespace RouteConfig

variable {r : RouteConfig} {name other : String}

theorem mem_receiverNames_iff :
    name ∈ r.receiverNames ↔ name ≠ "" ∧ ∃ s ∈ r.toList, s.receiver = name := by
  simp [receiverNames, and_comm]

theorem receiver_withReceiver (r : RouteConfig) (name : String) :
    (r.withReceiver name).receiver = name := by
  obtain ⟨s, rs⟩ := r
  rfl

theorem mem_receiverNames_withReceiver (h : other ∈ (r.withReceiver name).receiverNames) :
    other = name ∨ other ∈ r.receiverNames := by
  obtain ⟨s, rs⟩ := r
  obtain ⟨hother, s', hs', rfl⟩ := mem_receiverNames_iff.mp h
  rcases Tree.mem_toList_iff.mp hs' with rfl | hbelow
  · exact .inl rfl
  · exact .inr (mem_receiverNames_iff.mpr ⟨hother, s', Tree.mem_toList_iff.mpr (.inr hbelow), rfl⟩)

/-- The last receiver on a way is named, at the latest by the root. -/
theorem lastReceiver_mem (h : r.receiver ≠ "") {p : Tree.Address} {ss : List RouteSettings}
    (hss : r.path? p = some ss) : lastReceiver ss ∈ r.receiverNames := by
  obtain ⟨rest, rfl⟩ := Tree.eq_cons_of_path? hss
  have hmem : lastReceiver (r.value :: rest) ∈
      ((r.value :: rest).map (·.receiver)).filter (· != "") := by
    have hroot : r.value.receiver ≠ "" := h
    unfold lastReceiver
    rw [List.map_cons, List.filter_cons_of_pos (by simpa using hroot), List.getLastD_cons]
    exact List.getLastD_mem_cons
  obtain ⟨hnamed, hne⟩ := List.mem_filter.mp hmem
  obtain ⟨s, hs, hreceiver⟩ := List.mem_map.mp hnamed
  exact mem_receiverNames_iff.mpr
    ⟨by simpa using hne, s, Tree.mem_toList_of_path? hss hs, hreceiver⟩

end RouteConfig

/-- The receivers of an alert are named in the routes if the root names one. -/
theorem Route.mem_receiverNames_of_mem_receiversFor {r : RouteConfig} {t : Route}
    (h : Route.ofConfig r = .ok t) (hroot : r.receiver ≠ "") {labels : LabelSet} {name : String}
    (hname : name ∈ t.receiversFor labels) : name ∈ r.receiverNames := by
  obtain ⟨n, hn, rfl⟩ := List.mem_map.mp hname
  obtain ⟨p, hp⟩ := Route.mem_matching hn
  have hreceiver := Route.receiver?_of_ofConfig h p
  rw [Route.receiver?, hp, Option.map_some, eq_comm, Option.map_eq_some_iff] at hreceiver
  obtain ⟨ss, hss, hlast⟩ := hreceiver
  rw [← hlast]
  exact RouteConfig.lastReceiver_mem hroot hss

/-! ### Consistent configurations -/

namespace Config

variable {c : Config}

theorem checkRoute_eq_ok_iff :
    c.checkRoute = .ok () ↔
      c.route.receiver ≠ "" ∧ ∀ name ∈ c.route.receiverNames, name ∈ c.receiverNames := by
  unfold checkRoute
  by_cases hroot : c.route.receiver = ""
  · simp [hroot]
  rw [if_neg hroot]
  cases hfind : c.route.receiverNames.find? fun name => !c.receiverNames.contains name with
  | none =>
      rw [List.find?_eq_none] at hfind
      simpa [hroot] using hfind
  | some name =>
      have hname := List.mem_of_find?_eq_some hfind
      have hunknown := List.find?_some hfind
      simp only [Bool.not_eq_true', List.contains_eq_mem, decide_eq_false_iff_not] at hunknown
      simp only [reduceCtorEq, false_iff, not_and, not_forall]
      intro _
      exact ⟨name, hname, hunknown⟩

/-- **An alert is routed somewhere if and only if the root accepts it**, in a consistent
configuration. -/
theorem routed_iff_root_accepts (h : c.validate = .ok ()) :
    ∃ t ms, Route.ofConfig c.route = .ok t ∧ c.route.value.conditions = .ok ms ∧
      ∀ labels, t.receiversFor labels ≠ [] ↔ ∀ m ∈ ms, m.holdsOf labels = true := by
  obtain ⟨-, -, hroute⟩ := validate_eq_ok_iff.mp h
  obtain ⟨t, ht⟩ := Route.exists_ofConfig_iff.mpr hroute
  have hrel := Route.rel_of_compile (Route.ofConfig_eq_ok_iff.mp ht) []
  rw [Tree.value?_nil] at hrel
  cases hrel with
  | some hnode =>
      obtain ⟨s, hs, hconditions, -⟩ := hnode.own
      cases hs
      exact ⟨t, t.value.matchers, ht, hconditions, fun labels => Route.receiversFor_ne_nil_iff⟩

/-- One receiver, to which the root sends the alerts of one team. -/
def ofTeam : Config where
  global := default
  route := .node { RouteSettings.ofReceiver "a" with labels := .ofList [("team", "x")] } []
  receivers := [.named "a"]
  templates := []

theorem routed_iff_root_accepts_ofTeam : ofTeam.validate = .ok () ∧
    ∃ t ms, Route.ofConfig ofTeam.route = .ok t ∧ ofTeam.route.value.conditions = .ok ms ∧
      (t.receiversFor (.ofList [("team", "x")]) ≠ [] ↔
        ∀ m ∈ ms, m.holdsOf (.ofList [("team", "x")]) = true) := by
  have hvalid : ofTeam.validate = .ok () := rfl
  obtain ⟨t, ms, ht, hms, hrouted⟩ := routed_iff_root_accepts hvalid
  exact ⟨hvalid, t, ms, ht, hms, hrouted _⟩

/-- An alert without a team is routed nowhere, though the configuration is consistent. -/
theorem receiversFor_ofTeam_empty : ofTeam.validate = .ok () ∧
    ∃ t, Route.ofConfig ofTeam.route = .ok t ∧ t.receiversFor .empty = [] :=
  ⟨rfl, _, rfl, rfl⟩

end Config

/-! ### Consistency in the course of requests -/

/-- The deleted names once one more request has been answered. -/
def deletedBy (names : List String) : Answered → List String
  | (.delete name, .ok _) => name :: names
  | (.update _, .ok _) => []
  | _ => names

/-- The names that have been deleted since the configuration was last replaced as a whole. -/
def deletedNames (history : List Answered) : List String := history.foldl deletedBy []

theorem deletedNames_concat (history : List Answered) (x : Answered) :
    deletedNames (history ++ [x]) = deletedBy (deletedNames history) x := by
  simp [deletedNames]

theorem deletedBy_error (names : List String) (request : ReconfigRequest) (e : AlertError) :
    deletedBy names (request, .error e) = names := by
  cases request <;> rfl

/-- The root names a receiver, and each name in the routes is that of a receiver or one of
`names`. -/
structure Referring (names : List String) (c : Config) : Prop where
  root : c.route.receiver ≠ ""
  known : ∀ name ∈ c.route.receiverNames, name ∈ c.receiverNames ∨ name ∈ names

theorem Referring.of_validate {c : Config} (h : c.validate = .ok ()) (names : List String) :
    Referring names c := by
  obtain ⟨-, hroute, -⟩ := Config.validate_eq_ok_iff.mp h
  obtain ⟨hroot, hknown⟩ := Config.checkRoute_eq_ok_iff.mp hroute
  exact ⟨hroot, fun name hname => .inl (hknown name hname)⟩

namespace Coordinator

variable {registry : Registry} {link : Option Url} {s s₀ : Coordinator} {next : Prepared}
  {names : List String} {history : List Answered}

theorem Referring.prepareAdd {receiver : Receiver} (h : Referring names s.snapshot.config)
    (hnext : s.prepareAdd receiver = .ok next) : Referring names next.1 := by
  obtain ⟨hname, -, is, compiled, -, -, rfl⟩ := prepareAdd_eq_ok_iff.mp hnext
  have hmem {other : String} (hother : other ∈ s.snapshot.config.receiverNames) :
      other ∈ (s.snapshot.config.receivers ++ [receiver]).map (·.name) := by
    rw [List.map_append]
    exact List.mem_append_left _ hother
  unfold reroute
  split
  · exact ⟨h.root, fun other hother => (h.known other hother).imp_left hmem⟩
  · refine ⟨?_, ?_⟩
    · rw [RouteConfig.receiver_withReceiver]
      exact hname
    · intro other hother
      rcases RouteConfig.mem_receiverNames_withReceiver hother with rfl | hother
      · exact .inl (List.mem_map_of_mem (by simp))
      · exact (h.known other hother).imp_left hmem

theorem Referring.prepareEdit {receiver : Receiver} (h : Referring names s.snapshot.config)
    (hagrees : Agrees s.registry s.link (s.snapshot.config, s.snapshot.table))
    (hnext : s.prepareEdit receiver = .ok next) : Referring names next.1 := by
  obtain ⟨hknown, is, compiled, -, -, rfl⟩ := prepareEdit_eq_ok_iff.mp hnext
  refine ⟨h.root, ?_⟩
  intro other hother
  refine (h.known other hother).imp_left ?_
  intro hmem
  unfold Config.receiverNames at hmem ⊢
  rwa [map_name_replaceReceiver (hagrees.contains_iff.mp hknown)]

theorem Referring.prepareDelete {name : String} (h : Referring names s.snapshot.config)
    (hnext : s.prepareDelete name = .ok next) : Referring (name :: names) next.1 := by
  obtain ⟨-, rfl⟩ := prepareDelete_eq_ok_iff.mp hnext
  refine ⟨h.root, ?_⟩
  intro other hother
  by_cases hname : other = name
  · exact .inr (hname ▸ List.mem_cons_self)
  · refine (h.known other hother).imp ?_ (List.mem_cons_of_mem _)
    intro hmem
    obtain ⟨r, hr, rfl⟩ := List.mem_map.mp hmem
    exact List.mem_map_of_mem (List.mem_filter.mpr ⟨hr, by simpa using hname⟩)

/-- Only a deletion adds to the names that may dangle. -/
theorem Referring.prepare {request : ReconfigRequest} (h : Referring names s.snapshot.config)
    (hagrees : Agrees s.registry s.link (s.snapshot.config, s.snapshot.table))
    (hnext : s.prepare request = .ok next) :
    Referring (deletedBy names (request, .ok ())) next.1 := by
  cases request with
  | add receiver => exact Referring.prepareAdd h hnext
  | edit receiver => exact Referring.prepareEdit h hagrees hnext
  | delete name => exact Referring.prepareDelete h hnext
  | update c =>
      obtain ⟨hvalid, rfl, -⟩ := prepareUpdate_eq_ok_iff.mp hnext
      exact .of_validate hvalid _

/-- In every run the names in the routes are known or deleted. -/
theorem Run.referring {c : Config} (hstart : start c registry link = .ok s₀)
    (h : s₀.Run history s) : Referring (deletedNames history) s.snapshot.config := by
  induction h with
  | refl =>
      obtain ⟨hvalid, table, -, rfl⟩ := start_eq_ok_iff.mp hstart
      exact .of_validate hvalid _
  | @request history s hrun request ih =>
      rw [deletedNames_concat]
      rcases s.handle_cases request with ⟨-, heq⟩ | ⟨-, e, -, heq⟩ | ⟨-, next, hnext, heq⟩
      · rw [heq, deletedBy_error]
        exact ih
      · rw [heq, deletedBy_error]
        exact ih
      · obtain ⟨rfl, rfl, hagrees⟩ := hrun.faithful hstart
        rw [heq]
        simp only [publish_snapshot]
        exact Referring.prepare ih hagrees hnext
  | settle _ ih => rwa [settle_snapshot]
  | shutdown _ ih => rwa [shutdown_snapshot]

/-- **Validity is lost only by deletion.**  After any requests the root of the published routes
names a receiver, all conditions can be read, and the receivers have names, all of them different.
A name in the routes is that of a receiver unless it has been deleted since the configuration was
last replaced; so are the receivers of every alert. -/
theorem validity_until_deletion {c : Config} (hstart : start c registry link = .ok s₀)
    (h : s₀.Run history s) :
    s.snapshot.config.route.receiver ≠ "" ∧
    (∀ settings ∈ s.snapshot.config.route.toList, ∃ ms, settings.conditions = .ok ms) ∧
    (∀ name ∈ s.snapshot.config.receiverNames, name ≠ "") ∧
    s.snapshot.config.receiverNames.Nodup ∧
    (∀ name ∈ s.snapshot.config.route.receiverNames,
      name ∈ s.snapshot.config.receiverNames ∨ name ∈ deletedNames history) ∧
    (deletedNames history = [] → s.snapshot.config.validate = .ok ()) ∧
    ∀ labels, ∀ name ∈ s.snapshot.table.receiversFor labels,
      name ≠ "" ∧ (s.snapshot.table.contains name = true ∨ name ∈ deletedNames history) := by
  have hreferring := h.referring hstart
  have hagrees := (h.faithful hstart).agrees
  have hconditions := Route.exists_ofConfig_iff.mp ⟨_, hagrees.route⟩
  refine ⟨hreferring.root, RouteConfig.validate_eq_ok_iff.mp hconditions, ?_,
    hagrees.serves.distinct, hreferring.known, ?_, ?_⟩
  · rintro name hname rfl
    exact hagrees.named hname
  · intro hnone
    have hknown : ∀ name ∈ s.snapshot.config.route.receiverNames,
        name ∈ s.snapshot.config.receiverNames := by
      intro name hname
      refine (hreferring.known name hname).resolve_right ?_
      rw [hnone]
      exact List.not_mem_nil
    exact Config.validate_eq_ok_iff.mpr ⟨⟨hagrees.named, hagrees.serves.distinct⟩,
      Config.checkRoute_eq_ok_iff.mpr ⟨hreferring.root, hknown⟩, hconditions⟩
  · intro labels name hname
    have hmem := Route.mem_receiverNames_of_mem_receiversFor hagrees.route hreferring.root hname
    exact ⟨(RouteConfig.mem_receiverNames_iff.mp hmem).1,
      (hreferring.known name hmem).imp_left hagrees.contains_iff.mpr⟩

/-- The receiver at the root is deleted and stays named there. -/
theorem validity_until_deletion_root :
    ∃ s₀, start (.ofReceiver (.named "a")) .standard none = .ok s₀ ∧
      let history : List Answered := [(.add (.named "b"), .ok ()),
        (.add (.named "a"), .error (.duplicateName "a")), (.delete "b", .ok ())]
      ∃ s, s₀.Run history s ∧ deletedNames history = ["b"] ∧
        s.snapshot.table.receiversFor .empty = ["b"] ∧
        s.snapshot.table.contains "b" = false ∧
        (s.snapshot.table.contains "b" = true ∨ "b" ∈ deletedNames history) := by
  obtain ⟨s₀, hstart⟩ := exists_start
  refine ⟨s₀, hstart, ?_⟩
  have hrun := Run.handleAll s₀ [.add (.named "b"), .add (.named "a"), .delete "b"]
  have hvalidity := validity_until_deletion hstart hrun
  cases hstart
  exact ⟨_, hrun, rfl, rfl, rfl, (hvalidity.2.2.2.2.2.2 .empty "b" (by decide)).2⟩

end Coordinator

end AlertRouter
