import AlertRouter.Proofs.Routing.Requests

/-! # Reconfiguration and rebuilding

A request changes the configuration and the table side by side: receivers and integrations one at a
time, the routes as a whole.  `Agrees` says that both are still those of one another: the table is
the one that `RoutingTable.ofConfig` makes of the configuration.  It holds of the first snapshot and
of whatever a request is prepared to, hence of every snapshot that is ever published
(`rebuild_eq_table`). -/

namespace AlertRouter

/-! ### Names in a configuration -/

namespace Config

theorem checkNames_eq_ok_iff {seen names : List String} :
    checkNames seen names = .ok () ↔
      "" ∉ names ∧ names.Nodup ∧ ∀ name ∈ names, name ∉ seen := by
  induction names generalizing seen with
  | nil => simp [checkNames]
  | cons name names ih =>
      unfold checkNames
      by_cases hname : name = ""
      · simp [hname]
      by_cases hseen : name ∈ seen
      · simp [hname, hseen]
      rw [if_neg hname, if_neg hseen, ih, List.nodup_cons]
      constructor
      · rintro ⟨hnamed, hdistinct, hnew⟩
        have hout : name ∉ names := fun hmem => hnew name hmem (by simp)
        refine ⟨by simp [hnamed, Ne.symm hname], ⟨hout, hdistinct⟩, ?_⟩
        rintro other hother
        rcases List.mem_cons.mp hother with rfl | hother
        · exact hseen
        · exact fun hmem => hnew other hother (List.mem_cons_of_mem _ hmem)
      · rintro ⟨hnamed, ⟨hout, hdistinct⟩, hnew⟩
        refine ⟨fun hmem => hnamed (List.mem_cons_of_mem _ hmem), hdistinct, ?_⟩
        intro other hother hmem
        rcases List.mem_cons.mp hmem with rfl | hmem
        · exact hout hother
        · exact hnew other (List.mem_cons_of_mem _ hother) hmem

theorem validate_eq_ok_iff {c : Config} :
    c.validate = .ok () ↔ ("" ∉ c.receiverNames ∧ c.receiverNames.Nodup) ∧
      c.checkRoute = .ok () ∧ c.route.validate = .ok () := by
  simp only [validate, Except.bind_def, Except.bind_eq_ok_iff, Except.mapError_eq_ok_iff]
  constructor
  · rintro ⟨_, hnames, _, hroute, hconditions⟩
    obtain ⟨hnamed, hdistinct, -⟩ := checkNames_eq_ok_iff.mp hnames
    exact ⟨⟨hnamed, hdistinct⟩, hroute, hconditions⟩
  · rintro ⟨⟨hnamed, hdistinct⟩, hroute, hconditions⟩
    exact ⟨(), checkNames_eq_ok_iff.mpr ⟨hnamed, hdistinct, by simp⟩, (), hroute, hconditions⟩

end Config

namespace Coordinator

variable {registry : Registry} {link : Option Url} {s : Coordinator} {next : Prepared}

/-- The table is that of the configuration, and all receivers have a name. -/
structure Agrees (registry : Registry) (link : Option Url) (p : Prepared) : Prop where
  rebuild : RoutingTable.ofConfig p.1 registry link = .ok p.2
  named : "" ∉ p.1.receiverNames

theorem Agrees.route {p : Prepared} (h : Agrees registry link p) :
    Route.ofConfig p.1.route = .ok p.2.route :=
  (RoutingTable.ofConfig_eq_ok_iff.mp h.rebuild).1

theorem Agrees.serves {p : Prepared} (h : Agrees registry link p) :
    RoutingTable.Serves p.1.global registry link p.1.receivers p.2.receivers :=
  (RoutingTable.ofConfig_eq_ok_iff.mp h.rebuild).2

theorem Agrees.contains_iff {p : Prepared} (h : Agrees registry link p) {name : String} :
    p.2.contains name = true ↔ name ∈ p.1.receiverNames :=
  h.serves.contains_iff

/-! ### One receiver in the place of another -/

section replaceReceiver
variable {receiver : Receiver} {rs : List Receiver}

theorem map_name_replaceReceiver (h : receiver.name ∈ rs.map (·.name)) :
    (replaceReceiver receiver rs).map (·.name) = rs.map (·.name) := by
  induction rs with
  | nil => simp at h
  | cons r rs ih =>
      unfold replaceReceiver
      split
      · next heq => simp [heq]
      · next hne =>
          rw [List.map_cons, List.mem_cons] at h
          rw [List.map_cons, List.map_cons, ih (h.resolve_left (Ne.symm hne))]

theorem mem_replaceReceiver (hdistinct : (rs.map (·.name)).Nodup) {r : Receiver}
    (h : r ∈ replaceReceiver receiver rs) : r = receiver ∨ r ∈ rs ∧ r.name ≠ receiver.name := by
  induction rs with
  | nil => exact .inl (List.mem_singleton.mp h)
  | cons r' rs ih =>
      rw [List.map_cons, List.nodup_cons] at hdistinct
      unfold replaceReceiver at h
      split at h
      · next heq =>
          rcases List.mem_cons.mp h with rfl | h
          · exact .inl rfl
          · refine .inr ⟨List.mem_cons_of_mem _ h, fun e => hdistinct.1 ?_⟩
            rw [heq, ← e]
            exact List.mem_map_of_mem h
      · next hne =>
          rcases List.mem_cons.mp h with rfl | h
          · exact .inr ⟨by simp, hne⟩
          · rcases ih hdistinct.2 h with rfl | ⟨h, hr⟩
            · exact .inl rfl
            · exact .inr ⟨List.mem_cons_of_mem _ h, hr⟩

theorem serves_replaceReceiver {g : GlobalConfig} {m : SortedMap String (List Integration)}
    {is : List Integration} (h : RoutingTable.Serves g registry link rs m)
    (hmem : receiver.name ∈ rs.map (·.name))
    (his : RoutingTable.buildResolved g registry link receiver = .ok is) :
    RoutingTable.Serves g registry link (replaceReceiver receiver rs)
      ((m.erase receiver.name).insert receiver.name is) := by
  refine ⟨?_, ?_, ?_⟩
  · rw [map_name_replaceReceiver hmem]
    exact h.distinct
  · intro r hr
    rcases mem_replaceReceiver h.distinct hr with rfl | ⟨hr, hne⟩
    · exact ⟨is, his, SortedMap.get?_insert_self _ _ _⟩
    · obtain ⟨is', hbuilt, hget⟩ := h.built r hr
      refine ⟨is', hbuilt, ?_⟩
      have hne' : compare receiver.name r.name ≠ .eq := fun e =>
        hne (Std.LawfulEqCmp.eq_of_compare e).symm
      rw [SortedMap.get?_insert_of_ne _ _ hne, SortedMap.get?_erase, if_neg hne', hget]
  · intro name hname
    rw [map_name_replaceReceiver hmem]
    by_cases e : name = receiver.name
    · rwa [e]
    · refine h.known name ?_
      rw [SortedMap.contains, SortedMap.get?_insert_of_ne _ _ e, SortedMap.get?_erase] at hname
      split at hname
      · cases hname
      · exact hname

end replaceReceiver

/-! ### The four requests -/

theorem Agrees.prepareAdd {receiver : Receiver}
    (h : Agrees s.registry s.link (s.snapshot.config, s.snapshot.table))
    (hnext : s.prepareAdd receiver = .ok next) : Agrees s.registry s.link next := by
  obtain ⟨hname, hnew, is, compiled, his, hcompiled, rfl⟩ := prepareAdd_eq_ok_iff.mp hnext
  refine ⟨RoutingTable.ofConfig_eq_ok_iff.mpr ⟨hcompiled, h.serves.add hnew his⟩, ?_⟩
  have hnamed := h.named
  unfold Config.receiverNames at hnamed ⊢
  rw [List.map_append, List.mem_append, not_or]
  exact ⟨hnamed, by simpa using Ne.symm hname⟩

theorem Agrees.prepareEdit {receiver : Receiver}
    (h : Agrees s.registry s.link (s.snapshot.config, s.snapshot.table))
    (hnext : s.prepareEdit receiver = .ok next) : Agrees s.registry s.link next := by
  obtain ⟨hknown, is, compiled, his, hcompiled, rfl⟩ := prepareEdit_eq_ok_iff.mp hnext
  have hmem := h.contains_iff.mp hknown
  refine ⟨RoutingTable.ofConfig_eq_ok_iff.mpr
    ⟨hcompiled, serves_replaceReceiver h.serves hmem his⟩, ?_⟩
  have hnamed := h.named
  unfold Config.receiverNames at hnamed hmem ⊢
  rwa [map_name_replaceReceiver hmem]

theorem Agrees.prepareDelete {name : String}
    (h : Agrees s.registry s.link (s.snapshot.config, s.snapshot.table))
    (hnext : s.prepareDelete name = .ok next) : Agrees s.registry s.link next := by
  obtain ⟨-, rfl⟩ := prepareDelete_eq_ok_iff.mp hnext
  refine ⟨RoutingTable.ofConfig_eq_ok_iff.mpr ⟨h.route, h.serves.delete name⟩, fun hmem => ?_⟩
  exact h.named ((List.filter_sublist.map _).subset hmem)

theorem Agrees.prepareUpdate {c : Config} (hnext : s.prepareUpdate c = .ok next) :
    Agrees s.registry s.link next := by
  obtain ⟨hvalid, rfl, htable⟩ := prepareUpdate_eq_ok_iff.mp hnext
  exact ⟨htable, (Config.validate_eq_ok_iff.mp hvalid).1.1⟩

/-- Whatever is published next agrees if what is published agrees. -/
theorem Agrees.prepare {request : ReconfigRequest}
    (h : Agrees s.registry s.link (s.snapshot.config, s.snapshot.table))
    (hnext : s.prepare request = .ok next) : Agrees s.registry s.link next := by
  cases request with
  | add receiver => exact h.prepareAdd hnext
  | edit receiver => exact h.prepareEdit hnext
  | delete name => exact h.prepareDelete hnext
  | update c => exact .prepareUpdate hnext

/-! ### Every snapshot -/

theorem start_eq_ok_iff {c : Config} {s : Coordinator} :
    start c registry link = .ok s ↔ c.validate = .ok () ∧
      ∃ table, RoutingTable.ofConfig c registry link = .ok table ∧
        s = ⟨registry, link, ⟨1, c, table⟩, .running, true, [.install 1]⟩ := by
  simp only [start, Snapshot.initial, Except.bind_eq_ok_iff, Except.map_eq_ok_iff]
  constructor
  · rintro ⟨_, hvalid, _, ⟨table, htable, rfl⟩, rfl⟩
    exact ⟨hvalid, table, htable, rfl⟩
  · rintro ⟨hvalid, table, htable, rfl⟩
    exact ⟨(), hvalid, _, ⟨table, htable, rfl⟩, rfl⟩

theorem exists_start :
    ∃ s₀, start (.ofReceiver (.named "a")) .standard none = .ok s₀ := ⟨_, rfl⟩

/-- The coordinator builds with this registry and link, and what it has published agrees. -/
structure Faithful (registry : Registry) (link : Option Url) (s : Coordinator) : Prop where
  registry_eq : s.registry = registry
  link_eq : s.link = link
  agrees : Agrees registry link (s.snapshot.config, s.snapshot.table)

theorem Faithful.start {c : Config} (h : start c registry link = .ok s) :
    Faithful registry link s := by
  obtain ⟨hvalid, table, htable, rfl⟩ := start_eq_ok_iff.mp h
  exact ⟨rfl, rfl, htable, (Config.validate_eq_ok_iff.mp hvalid).1.1⟩

theorem Faithful.settle (h : Faithful registry link s) : Faithful registry link s.settle :=
  ⟨settle_registry.trans h.registry_eq, settle_link.trans h.link_eq,
    by rw [settle_snapshot]; exact h.agrees⟩

theorem Faithful.shutdown (h : Faithful registry link s) : Faithful registry link s.shutdown := by
  unfold Coordinator.shutdown
  split
  · exact h
  · have hstop : Faithful registry link (s.tell .stop) := ⟨h.registry_eq, h.link_eq, h.agrees⟩
    exact ⟨hstop.settle.registry_eq, hstop.settle.link_eq, hstop.settle.agrees⟩

theorem Faithful.publish {request : ReconfigRequest} (h : Faithful registry link s)
    (hnext : s.prepare request = .ok next) : Faithful registry link (s.publish next) := by
  obtain ⟨rfl, rfl, hagrees⟩ := h
  exact ⟨settle_registry, settle_link, hagrees.prepare hnext⟩

theorem Run.faithful {c : Config} {s₀ : Coordinator} {history : List Answered}
    (hstart : start c registry link = .ok s₀) (h : s₀.Run history s) :
    Faithful registry link s :=
  h.invariant (.start hstart) (fun _ _ _ h => h.publish) (fun _ => .settle) (fun _ => .shutdown)

/-- **Reconfiguration agrees with rebuilding.**  After any requests, the published table is the one
that the published configuration gives from scratch; its receivers have names, all of them
different, and these are the names that the table knows. -/
theorem rebuild_eq_table {c : Config} {s₀ : Coordinator} {history : List Answered}
    (hstart : start c registry link = .ok s₀) (h : s₀.Run history s) :
    RoutingTable.ofConfig s.snapshot.config registry link = .ok s.snapshot.table ∧
    (∀ name ∈ s.snapshot.config.receiverNames, name ≠ "") ∧
    s.snapshot.config.receiverNames.Nodup ∧
    ∀ name, name ∈ s.snapshot.config.receiverNames ↔ name ∈ s.snapshot.table.receiverNames := by
  have hagrees := (h.faithful hstart).agrees
  refine ⟨hagrees.rebuild, ?_, hagrees.serves.distinct, ?_⟩
  · rintro name hname rfl
    exact hagrees.named hname
  · intro name
    rw [RoutingTable.receiverNames, SortedMap.mem_keys_iff]
    exact hagrees.contains_iff.symm

theorem rebuild_eq_table_of_requests :
    ∃ s₀, start (.ofReceiver (.named "a")) .standard none = .ok s₀ ∧
      let s := (s₀.handleAll [.add (.named "b"), .add (.named "a"), .delete "a"]).2
      s.snapshot.version = 3 ∧
      RoutingTable.ofConfig s.snapshot.config .standard none = .ok s.snapshot.table := by
  obtain ⟨s₀, hstart⟩ := exists_start
  refine ⟨s₀, hstart, ?_, (rebuild_eq_table hstart (Run.handleAll s₀ _)).1⟩
  cases hstart
  rfl

end Coordinator

end AlertRouter
