import AlertRouter.Proofs.Routing.Validity

/-! # What requests make of the routing

A receiver that is edited or deleted leaves the routing as it was, and so does a new one that the
routes already name.  A new receiver that no route names becomes that of the root.  The routes are
compiled again then, and the new name goes on to all nodes that take their receiver from the root
(`RouteConfig.TakesRoot`).  Nothing else moves (`Rerouted`): an alert ends up at the same nodes in
the same order, since the conditions are the same, and the other nodes keep their receivers. -/

namespace AlertRouter

open AlertRouter.Tree (Address)

/-! ### Another receiver at the root -/

namespace RouteConfig

variable {r : RouteConfig} {s : RouteSettings} {ss : List RouteSettings} {name : String}
  {p : Address}

/-- There is a node at the address, and below the root no receiver is named on the way to it. -/
def TakesRoot (r : RouteConfig) (p : Address) : Prop :=
  ∃ below, r.path? p = some (r.value :: below) ∧ ∀ s ∈ below, s.receiver = ""

theorem lastReceiver_cons_of_forall (h : ∀ s ∈ ss, s.receiver = "") :
    lastReceiver (s :: ss) = s.receiver := by
  have hnone : (ss.map (·.receiver)).filter (· != "") = [] := by
    simpa [List.filter_eq_nil_iff] using h
  unfold lastReceiver
  by_cases hs : s.receiver = ""
  · rw [List.map_cons, List.filter_cons_of_neg (by simp [hs]), hnone, hs]
    rfl
  · rw [List.map_cons, List.filter_cons_of_pos (by simp [hs]), hnone]
    rfl

/-- Where a receiver is named after the first settings, they do not matter. -/
theorem lastReceiver_cons_of_exists (h : ∃ s ∈ ss, s.receiver ≠ "") :
    lastReceiver (s :: ss) = lastReceiver ss ∧ ∃ s ∈ ss, s.receiver = lastReceiver ss := by
  have hsome : (ss.map (·.receiver)).filter (· != "") ≠ [] := by
    simpa [List.filter_eq_nil_iff] using h
  obtain ⟨name, names, hnames⟩ := List.exists_cons_of_ne_nil hsome
  have hlast : lastReceiver ss = names.getLastD name := by
    rw [lastReceiver, hnames, List.getLastD_cons]
  have hmem : lastReceiver ss ∈ (ss.map (·.receiver)).filter (· != "") := by
    rw [hlast, hnames]
    exact List.getLastD_mem_cons
  refine ⟨?_, List.mem_map.mp (List.mem_filter.mp hmem).1⟩
  rw [hlast, lastReceiver, List.map_cons, List.filter_cons]
  split
  · rw [hnames, List.getLastD_cons, List.getLastD_cons]
  · rw [hnames, List.getLastD_cons]

theorem path?_withReceiver_cases (r : RouteConfig) (name : String) (p : Address) :
    (r.path? p = none ∧ (r.withReceiver name).path? p = none) ∨
    ∃ below, r.path? p = some (r.value :: below) ∧
      (r.withReceiver name).path? p = some ({ r.value with receiver := name } :: below) :=
  Tree.path?_setValue_cases r _ p

end RouteConfig

/-- The routes `t'` are the routes `t`, compiled from `r`, with the receiver `name` in place of that
of the root. -/
structure Rerouted (r : RouteConfig) (name : String) (t t' : Route) : Prop where
  /-- An alert ends up at the same places in the same order. -/
  places_eq : ∀ labels, t'.places labels = t.places labels
  /-- At these places are the nodes that the matching gives, before and after. -/
  matched : ∀ labels, (t.places labels).map t.value? = (t.matching labels).map some ∧
    (t.places labels).map t'.value? = (t'.matching labels).map some
  /-- The new receiver is exactly where the receiver is that of the root. -/
  receiver?_iff : ∀ p, t'.receiver? p = some name ↔ r.TakesRoot p
  /-- All other nodes keep their receivers. -/
  kept : ∀ p, ¬ r.TakesRoot p → t'.receiver? p = t.receiver? p

section withReceiver
variable {r : RouteConfig} {t t' : Route} {name : String}

/-- The way of an alert does not depend on the receiver that the root names. -/
theorem Route.NodeOf.guard_eq {above above' : RouteOptions} {s : RouteSettings}
    {ss : List RouteSettings} {n n' : RouteNode} (h : Route.NodeOf above (s :: ss) n)
    (h' : Route.NodeOf above' ({ s with receiver := name } :: ss) n') :
    n'.guard = n.guard := by
  obtain ⟨own, hown, hms, hcontinues⟩ := h.own
  obtain ⟨own', hown', hms', hcontinues'⟩ := h'.own
  have hlast : own'.conditions = own.conditions ∧ own'.continues = own.continues := by
    cases ss with
    | nil =>
        cases hown
        cases hown'
        exact ⟨rfl, rfl⟩
    | cons u ss =>
        rw [List.getLast?_cons_cons] at hown hown'
        rw [hown] at hown'
        cases hown'
        exact ⟨rfl, rfl⟩
  rw [hlast.1, hms] at hms'
  rw [RouteNode.guard, RouteNode.guard, hcontinues, hcontinues', hlast.2, Except.ok.inj hms']

theorem Route.map_guard_withReceiver (h : Route.ofConfig r = .ok t)
    (h' : Route.ofConfig (r.withReceiver name) = .ok t') (p : Address) :
    (t'.value? p).map RouteNode.guard = (t.value? p).map RouteNode.guard := by
  have hrel := Route.rel_of_compile (Route.ofConfig_eq_ok_iff.mp h) p
  have hrel' := Route.rel_of_compile (Route.ofConfig_eq_ok_iff.mp h') p
  generalize t.value? p = n, t'.value? p = n' at hrel hrel'
  rcases r.path?_withReceiver_cases name p with ⟨hpath, hpath'⟩ | ⟨below, hpath, hpath'⟩
  · rw [hpath] at hrel
    rw [hpath'] at hrel'
    cases hrel
    cases hrel'
    rfl
  · rw [hpath] at hrel
    rw [hpath'] at hrel'
    cases hrel with
    | some hnode =>
    cases hrel' with
    | some hnode' => exact congrArg some (hnode.guard_eq hnode')

/-- A name that is nowhere in the routes goes to the nodes that take their receiver from the root,
if it is put there. -/
theorem Rerouted.of_ofConfig (h : Route.ofConfig r = .ok t)
    (h' : Route.ofConfig (r.withReceiver name) = .ok t') (hname : name ≠ "")
    (hnew : name ∉ r.receiverNames) : Rerouted r name t t' where
  places_eq labels := Route.places_congr labels t' t (Route.map_guard_withReceiver h h')
  matched labels := by
    refine ⟨Route.map_value?_places labels t, ?_⟩
    rw [← Route.places_congr labels t' t (Route.map_guard_withReceiver h h')]
    exact Route.map_value?_places labels t'
  receiver?_iff p := by
    rw [Route.receiver?_of_ofConfig h' p]
    rcases r.path?_withReceiver_cases name p with ⟨hpath, hpath'⟩ | ⟨below, hpath, hpath'⟩
    · simp [RouteConfig.TakesRoot, hpath, hpath']
    · rw [hpath', Option.map_some, Option.some.injEq]
      constructor
      · intro hlast
        refine ⟨below, hpath, ?_⟩
        by_contra hnamed
        simp only [not_forall, exists_prop] at hnamed
        obtain ⟨hskip, s, hs, hreceiver⟩ := RouteConfig.lastReceiver_cons_of_exists hnamed
        rw [hskip] at hlast
        have hmem := Tree.mem_toList_of_path? hpath (List.mem_cons_of_mem _ hs)
        exact hnew (RouteConfig.mem_receiverNames_iff.mpr ⟨hname, s, hmem, hreceiver.trans hlast⟩)
      · rintro ⟨below', hbelow, hnone⟩
        rw [hpath] at hbelow
        cases hbelow
        exact RouteConfig.lastReceiver_cons_of_forall hnone
  kept p hp := by
    rw [Route.receiver?_of_ofConfig h' p, Route.receiver?_of_ofConfig h p]
    rcases r.path?_withReceiver_cases name p with ⟨hpath, hpath'⟩ | ⟨below, hpath, hpath'⟩
    · rw [hpath, hpath']
    · have hnamed : ∃ s ∈ below, s.receiver ≠ "" := by
        by_contra hnone
        simp only [not_exists, not_and, not_not] at hnone
        exact hp ⟨below, hpath, hnone⟩
      rw [hpath, hpath', Option.map_some, Option.map_some,
        (RouteConfig.lastReceiver_cons_of_exists hnamed).1,
        (RouteConfig.lastReceiver_cons_of_exists hnamed).1]

end withReceiver

/-! ### Requests -/

/-- All alerts go to the same receivers. -/
def SameRouting (before after : Snapshot) : Prop :=
  ∀ labels, after.table.receiversFor labels = before.table.receiversFor labels

/-- What a request that succeeds makes of the routing. -/
def RoutingEffect (before after : Snapshot) : ReconfigRequest → Prop
  | .add receiver =>
    if before.config.route.references receiver.name then SameRouting before after
    else Rerouted before.config.route receiver.name before.table.route after.table.route
  | .edit _ | .delete _ => SameRouting before after
  | .update c => Route.ofConfig c.route = .ok after.table.route

/-- Two receivers.  Below the root one node takes its receiver from there, another names the same
one. -/
def Config.nested : Config where
  global := default
  route := .node (.ofReceiver "a")
    [.node { RouteSettings.ofReceiver "" with labels := .ofList [("job", "x")] }
      [.node { RouteSettings.ofReceiver "c" with labels := .ofList [("tier", "y")] } []],
    .node { RouteSettings.ofReceiver "a" with labels := .ofList [("job", "z")] } []]
  receivers := [.named "a", .named "c"]
  templates := []

namespace Coordinator

variable {registry : Registry} {link : Option Url} {s s₀ : Coordinator} {next : Prepared}
  {request : ReconfigRequest} {history : List Answered}

theorem RoutingEffect.of_prepare {version : Nat}
    (hagrees : Agrees s.registry s.link (s.snapshot.config, s.snapshot.table))
    (hnext : s.prepare request = .ok next) :
    RoutingEffect s.snapshot ⟨version, next.1, next.2⟩ request := by
  cases request with
  | add receiver =>
      obtain ⟨hname, -, is, compiled, -, hcompiled, rfl⟩ := prepareAdd_eq_ok_iff.mp hnext
      unfold reroute at hcompiled
      show if _ then _ else _
      split
      · next hreferences =>
          rw [if_pos hreferences, hagrees.route] at hcompiled
          cases hcompiled
          exact fun _ => rfl
      · next hreferences =>
          rw [if_neg hreferences] at hcompiled
          refine .of_ofConfig hagrees.route hcompiled hname ?_
          intro hmem
          exact hreferences (List.contains_iff_mem.mpr hmem)
  | edit receiver =>
      obtain ⟨-, is, compiled, -, hcompiled, rfl⟩ := prepareEdit_eq_ok_iff.mp hnext
      rw [hagrees.route] at hcompiled
      cases hcompiled
      exact fun _ => rfl
  | delete name =>
      obtain ⟨-, rfl⟩ := prepareDelete_eq_ok_iff.mp hnext
      exact fun _ => rfl
  | update c =>
      have hroute := (Agrees.prepareUpdate hnext).route
      rwa [(prepareUpdate_eq_ok_iff.mp hnext).2.1] at hroute

/-- **What each request does to the routing**, in whatever state it is handled. -/
theorem routing_effect {c : Config} (hstart : start c registry link = .ok s₀)
    (h : s₀.Run history s) (hok : (s.handle request).1 = .ok ()) :
    RoutingEffect s.snapshot (s.handle request).2.snapshot request := by
  obtain ⟨rfl, rfl, hagrees⟩ := h.faithful hstart
  rcases s.handle_cases request with ⟨-, heq⟩ | ⟨-, e, -, heq⟩ | ⟨-, next, hnext, heq⟩
  · rw [heq] at hok
    cases hok
  · rw [heq] at hok
    cases hok
  · rw [heq]
    simp only [publish_snapshot]
    exact RoutingEffect.of_prepare hagrees hnext

/-- A new receiver gets the alerts of the root and of the node that takes its receiver from
there. -/
theorem routing_effect_nested : ∃ s₀, start .nested .standard none = .ok s₀ ∧
    let s := (s₀.handle (.add (.named "n"))).2
    (s₀.handle (.add (.named "n"))).1 = .ok () ∧
    RoutingEffect s₀.snapshot s.snapshot (.add (.named "n")) ∧
    s₀.snapshot.config.route.references "n" = false ∧
    ([[], [("job", "x")], [("job", "x"), ("tier", "y")], [("job", "z")]].map fun labels =>
      (s.snapshot.table.route.places (.ofList labels),
        s.snapshot.table.receiversFor (.ofList labels))) =
      [([[]], ["n"]), ([[0]], ["n"]), ([[0, 0]], ["c"]), ([[1]], ["a"])] := by
  obtain ⟨s₀, hstart⟩ : ∃ s₀, start .nested .standard none = .ok s₀ := ⟨_, rfl⟩
  have hok : (s₀.handle (.add (.named "n"))).1 = .ok () := by
    cases hstart
    rfl
  refine ⟨s₀, hstart, hok, routing_effect hstart .refl hok, ?_, ?_⟩
  · cases hstart
    decide
  · cases hstart
    decide +kernel

end Coordinator

end AlertRouter
