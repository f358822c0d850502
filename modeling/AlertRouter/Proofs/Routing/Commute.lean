import AlertRouter.Proofs.Routing.Validity
import Mathlib.Logic.Function.Basic

/-! # Requests about different receivers

A request to add, edit or delete a receiver is about the receiver of one name
(`ReconfigRequest.subject?`).  Whether it is accepted depends on that name and on settings that such
requests leave alone, and it changes what is known under that name only (`Replaced`).  So two
requests about different receivers can be handled in either order (`requests_commute`).

The routes are the exception: a new receiver takes over the root if no route names it, and the
receiver at the root may be that of the other request.  Of two receivers that both take over the
root the later one stays there. -/

namespace AlertRouter

/-! ### What requests are about -/

namespace ReconfigRequest

/-- The name of the receiver that a request is about, unless it is about the whole
configuration. -/
def subject? : ReconfigRequest → Option String
  | add receiver | edit receiver => some receiver.name
  | delete name => some name
  | update _ => none

/-- What a request about one receiver makes of the routes. -/
def reroute (route : RouteConfig) : ReconfigRequest → RouteConfig
  | add receiver => Coordinator.reroute route receiver.name
  | _ => route

end ReconfigRequest

namespace RouteConfig

variable {r : RouteConfig} {name other : String}

theorem withReceiver_withReceiver :
    (r.withReceiver name).withReceiver other = r.withReceiver other := by
  obtain ⟨s, rs⟩ := r
  rfl

theorem withReceiver_receiver : r.withReceiver r.receiver = r := by
  obtain ⟨s, rs⟩ := r
  rfl

/-- The receiver at the root makes no difference to the conditions. -/
theorem validate_withReceiver (h : r.validate = .ok ()) :
    (r.withReceiver name).validate = .ok () := by
  obtain ⟨s, rs⟩ := r
  rw [validate_eq_ok_iff] at h ⊢
  intro s' hs'
  rcases Tree.mem_toList_iff.mp hs' with rfl | hbelow
  · exact h s (Tree.mem_toList_iff.mpr (.inl rfl))
  · exact h s' (Tree.mem_toList_iff.mpr (.inr hbelow))

end RouteConfig

/-! ### Look-ups -/

namespace SortedMap

variable {κ ν : Type} [Ord κ] [Std.TransOrd κ] [Std.LawfulEqOrd κ] [DecidableEq κ]

theorem get?_insert_eq_update (m : SortedMap κ ν) (k : κ) (v : ν) :
    (m.insert k v).get? = Function.update m.get? k (some v) := by
  funext k'
  by_cases hk : k' = k
  · subst hk
    rw [get?_insert_self, Function.update_self]
  · rw [get?_insert_of_ne _ _ hk, Function.update_of_ne hk]

theorem get?_erase_eq_update (m : SortedMap κ ν) (k : κ) :
    (m.erase k).get? = Function.update m.get? k none := by
  funext k'
  rw [get?_erase]
  by_cases hk : k' = k
  · subst hk
    simp
  · have hne : ¬ compare k k' = .eq := fun e => hk (Std.LawfulEqCmp.eq_of_compare e).symm
    rw [if_neg hne, Function.update_of_ne hk]

end SortedMap

namespace Config

variable {c : Config} {receiver : Receiver}

theorem receiver?_append (h : receiver.name ∉ c.receiverNames) :
    receiver? { c with receivers := c.receivers ++ [receiver] } =
      Function.update c.receiver? receiver.name (some receiver) := by
  funext name
  unfold receiver?
  rw [List.find?_append]
  by_cases hname : name = receiver.name
  · subst hname
    have hnone : c.receivers.find? (·.name == receiver.name) = none := by
      rw [List.find?_eq_none]
      intro r hr heq
      exact h (beq_iff_eq.mp heq ▸ List.mem_map_of_mem hr)
    rw [hnone, Function.update_self]
    simp
  · rw [Function.update_of_ne hname]
    simp [Ne.symm hname]

theorem receiver?_replaceReceiver :
    receiver? { c with receivers := Coordinator.replaceReceiver receiver c.receivers } =
      Function.update c.receiver? receiver.name (some receiver) := by
  funext name
  unfold receiver?
  simp only
  by_cases hname : name = receiver.name
  · subst hname
    rw [Function.update_self]
    induction c.receivers with
    | nil => simp [Coordinator.replaceReceiver]
    | cons r rs ih =>
        unfold Coordinator.replaceReceiver
        split
        · simp
        · next hne => simp [hne, ih]
  · rw [Function.update_of_ne hname]
    induction c.receivers with
    | nil => simp [Coordinator.replaceReceiver, Ne.symm hname]
    | cons r rs ih =>
        unfold Coordinator.replaceReceiver
        split
        · next heq => simp [heq, Ne.symm hname]
        · rw [List.find?_cons, List.find?_cons, ih]

theorem receiver?_filter (name : String) :
    receiver? { c with receivers := c.receivers.filter (·.name != name) } =
      Function.update c.receiver? name none := by
  funext other
  unfold receiver?
  simp only
  by_cases hother : other = name
  · subst hother
    rw [Function.update_self, List.find?_eq_none]
    intro r hr
    simpa using (List.mem_filter.mp hr).2
  · rw [Function.update_of_ne hother, List.find?_filter]
    congr 1
    funext r
    by_cases hr : r.name = other
    · simp [hr, hother]
    · simp [hr]

end Config

namespace Coordinator

variable {registry : Registry} {link : Option Url} {s s' s₀ : Coordinator} {next : Prepared}
  {request a b : ReconfigRequest} {receiver : Receiver} {name m n : String} {route : RouteConfig}
  {history : List Answered}

/-! ### The routes -/

theorem withReceiver_reroute (other : String) :
    (reroute route name).withReceiver other = route.withReceiver other := by
  unfold reroute
  split
  · rfl
  · exact RouteConfig.withReceiver_withReceiver

/-- A new receiver changes the root at most. -/
theorem reroute_eq_withReceiver :
    reroute route name = route.withReceiver (reroute route name).receiver := by
  rw [← withReceiver_reroute, RouteConfig.withReceiver_receiver]

/-- Requests change the routes in either order alike, up to the root if both add a receiver. -/
theorem reroute_comm (route : RouteConfig) (a b : ReconfigRequest) :
    b.reroute (a.reroute route) = a.reroute (b.reroute route) ∨
    ∃ r r', a = .add r ∧ b = .add r' ∧ b.reroute (a.reroute route) =
      (a.reroute (b.reroute route)).withReceiver (b.reroute (a.reroute route)).receiver := by
  cases a with
  | add r =>
      cases b with
      | add r' =>
          refine .inr ⟨r, r', rfl, rfl, ?_⟩
          simp only [ReconfigRequest.reroute]
          rw [withReceiver_reroute, withReceiver_reroute, ← withReceiver_reroute,
            ← reroute_eq_withReceiver]
      | edit r' => exact .inl rfl
      | delete name => exact .inl rfl
      | update c => exact .inl rfl
  | edit r => exact .inl rfl
  | delete name => exact .inl rfl
  | update c => exact .inl rfl

/-! ### Answers -/

theorem Faithful.compiles (h : Faithful registry link s) :
    s.snapshot.config.route.validate = .ok () :=
  Route.exists_ofConfig_iff.mp ⟨_, h.agrees.route⟩

theorem exists_ofConfig_reroute (h : route.validate = .ok ()) (name : String) :
    ∃ compiled, Route.ofConfig (reroute route name) = .ok compiled := by
  rw [Route.exists_ofConfig_iff, reroute_eq_withReceiver]
  exact RouteConfig.validate_withReceiver h

/-- Why a new receiver is refused, if the published routes can be compiled. -/
theorem prepareAdd_answer (h : s.snapshot.config.route.validate = .ok ()) :
    (s.prepareAdd receiver).map (fun _ => ()) =
      if receiver.name = "" then .error (.badInput .unnamedReceiver)
      else if s.snapshot.table.contains receiver.name then .error (.duplicateName receiver.name)
      else (s.build receiver).map fun _ => () := by
  by_cases hname : receiver.name = ""
  · simp only [prepareAdd, hname, if_true]
    rfl
  cases hcontains : s.snapshot.table.contains receiver.name with
  | true =>
      simp only [prepareAdd, hname, hcontains, if_false, if_true]
      rfl
  | false =>
      cases hbuild : s.build receiver with
      | error e =>
          simp only [prepareAdd, hname, hcontains, hbuild, if_false]
          rfl
      | ok is =>
          obtain ⟨compiled, hcompiled⟩ := exists_ofConfig_reroute h receiver.name
          rw [prepareAdd_eq_ok_iff.mpr ⟨hname, hcontains, is, compiled, hbuild, hcompiled, rfl⟩,
            if_neg hname]
          rfl

/-- Why an edited receiver is refused. -/
theorem prepareEdit_answer (h : s.snapshot.config.route.validate = .ok ()) :
    (s.prepareEdit receiver).map (fun _ => ()) =
      if s.snapshot.table.contains receiver.name then (s.build receiver).map fun _ => ()
      else .error (.unknownReceiver receiver.name) := by
  cases hcontains : s.snapshot.table.contains receiver.name with
  | false =>
      simp only [prepareEdit, hcontains]
      rfl
  | true =>
      cases hbuild : s.build receiver with
      | error e =>
          simp only [prepareEdit, hcontains, hbuild]
          rfl
      | ok is =>
          obtain ⟨compiled, hcompiled⟩ := Route.exists_ofConfig_iff.mpr h
          rw [prepareEdit_eq_ok_iff.mpr ⟨hcontains, is, compiled, hbuild, hcompiled, rfl⟩]
          rfl

/-- Why a deletion is refused. -/
theorem prepareDelete_answer :
    (s.prepareDelete name).map (fun _ => ()) =
      if s.snapshot.table.contains name then .ok () else .error (.unknownReceiver name) := by
  unfold prepareDelete RoutingTable.delete RoutingTable.contains SortedMap.contains
  cases s.snapshot.table.receivers.get? name with
  | none => rfl
  | some is => rfl

/-- The answer to a request depends on what receivers are built with, and on whether its subject is
known. -/
theorem prepare_answer_congr (hsubject : request.subject? = some name) (hbuild : s.build = s'.build)
    (hroute : s.snapshot.config.route.validate = .ok ())
    (hroute' : s'.snapshot.config.route.validate = .ok ())
    (hknown : s.snapshot.table.contains name = s'.snapshot.table.contains name) :
    (s.prepare request).map (fun _ => ()) = (s'.prepare request).map fun _ => () := by
  cases request with
  | add receiver =>
      cases hsubject
      simp only [prepare]
      rw [prepareAdd_answer hroute, prepareAdd_answer hroute', hbuild, hknown]
  | edit receiver =>
      cases hsubject
      simp only [prepare]
      rw [prepareEdit_answer hroute, prepareEdit_answer hroute', hbuild, hknown]
  | delete name =>
      cases hsubject
      simp only [prepare]
      rw [prepareDelete_answer, prepareDelete_answer, hknown]
  | update c => cases hsubject

/-! ### What a request replaces -/

/-- A request is prepared to a change of what is known under the name of its subject, and of the
routes. -/
structure Replaced (s : Coordinator) (request : ReconfigRequest) (name : String)
    (next : Prepared) : Prop where
  global : next.1.global = s.snapshot.config.global
  receivers : next.1.receiver? =
    Function.update s.snapshot.config.receiver? name request.receiver?
  integrations : next.2.receivers.get? = Function.update s.snapshot.table.receivers.get? name
    (request.receiver?.bind fun receiver => (s.build receiver).toOption)
  route : next.1.route = request.reroute s.snapshot.config.route

theorem Replaced.of_prepare (hs : Faithful registry link s)
    (hsubject : request.subject? = some name) (hnext : s.prepare request = .ok next) :
    Replaced s request name next := by
  cases request with
  | add receiver =>
      cases hsubject
      obtain ⟨-, hnew, is, compiled, his, -, rfl⟩ := prepareAdd_eq_ok_iff.mp hnext
      have hout : receiver.name ∉ s.snapshot.config.receiverNames := fun hmem => by
        rw [← hs.agrees.contains_iff, hnew] at hmem
        cases hmem
      refine ⟨rfl, Config.receiver?_append hout, ?_, rfl⟩
      rw [SortedMap.get?_insert_eq_update, ReconfigRequest.receiver?, Option.bind_some, his]
      rfl
  | edit receiver =>
      cases hsubject
      obtain ⟨-, is, compiled, his, -, rfl⟩ := prepareEdit_eq_ok_iff.mp hnext
      refine ⟨rfl, Config.receiver?_replaceReceiver, ?_, rfl⟩
      rw [SortedMap.get?_insert_eq_update, SortedMap.get?_erase_eq_update, Function.update_idem,
        ReconfigRequest.receiver?, Option.bind_some, his]
      rfl
  | delete name =>
      cases hsubject
      obtain ⟨-, rfl⟩ := prepareDelete_eq_ok_iff.mp hnext
      exact ⟨rfl, Config.receiver?_filter name, SortedMap.get?_erase_eq_update _ _, rfl⟩
  | update c => cases hsubject

/-! ### One request after another -/

theorem handle_fst : (s.handle request).1 = if s.state = .stopped
    then .error (.internal .coordinatorStopped) else (s.prepare request).map fun _ => () := by
  unfold handle
  split
  · rfl
  · cases s.prepare request with
    | error e => rfl
    | ok next => rfl

theorem handle_of_ok (h : (s.handle request).1 = .ok ()) :
    s.state ≠ .stopped ∧ ∃ next, s.prepare request = .ok next ∧
      s.handle request = (.ok (), s.publish next) := by
  rcases s.handle_cases request with ⟨-, heq⟩ | ⟨-, e, -, heq⟩ | h
  · rw [heq] at h
    cases h
  · rw [heq] at h
    cases h
  · exact h

theorem publish_build (h : next.1.global = s.snapshot.config.global) :
    (s.publish next).build = s.build := by
  funext receiver
  have hregistry : (s.publish next).registry = s.registry := settle_registry
  have hlink : (s.publish next).link = s.link := settle_link
  unfold build
  rw [hregistry, hlink, publish_snapshot, h]

/-- What a request leaves of the state that another request is judged by. -/
theorem Replaced.publish_contains (h : Replaced s request name next) {other : String}
    (hne : other ≠ name) : (s.publish next).snapshot.table.contains other =
      s.snapshot.table.contains other := by
  rw [publish_snapshot]
  unfold RoutingTable.contains SortedMap.contains
  rw [h.integrations, Function.update_of_ne hne]

/-- A request is answered as it would have been before a request about another receiver. -/
theorem handle_fst_handle (hs : Faithful registry link s) (ha : a.subject? = some m)
    (hb : b.subject? = some n) (hne : m ≠ n) :
    ((s.handle b).2.handle a).1 = (s.handle a).1 := by
  rcases s.handle_cases b with ⟨-, heq⟩ | ⟨-, e, -, heq⟩ | ⟨hstate, next, hnext, heq⟩
  · rw [heq]
  · rw [heq]
  · have hreplaced := Replaced.of_prepare hs hb hnext
    have hstate' : (s.publish next).state ≠ .stopped := nofun
    rw [heq, handle_fst, handle_fst, if_neg hstate, if_neg hstate']
    exact prepare_answer_congr ha (publish_build hreplaced.global) (hs.publish hnext).compiles
      hs.compiles (hreplaced.publish_contains hne)

/-- Two requests that are both accepted replace the same in either order. -/
theorem Replaced.comm {p q p' q' : Prepared} (hne : m ≠ n) (hp : Replaced s a m p)
    (hq : Replaced (s.publish p) b n q) (hp' : Replaced s b n p')
    (hq' : Replaced (s.publish p') a m q') :
    q.1.receiver? = q'.1.receiver? ∧ q.2.receivers = q'.2.receivers := by
  refine ⟨?_, SortedMap.ext_get? (congrFun ?_)⟩
  · rw [hq.receivers, hq'.receivers, publish_snapshot, publish_snapshot, hp.receivers,
      hp'.receivers, Function.update_comm hne]
  · rw [hq.integrations, hq'.integrations, publish_snapshot, publish_snapshot, hp.integrations,
      hp'.integrations, Function.update_comm hne, publish_build hp.global,
      publish_build hp'.global]

/-- **Requests about different receivers commute.**  In either order each of them is answered alike,
and the same version is published, with the same receivers and integrations by their names.  The
routes are the same as well, except that two new receivers may leave different receivers at the
root. -/
theorem requests_commute {c : Config} (hstart : start c registry link = .ok s₀)
    (h : s₀.Run history s) (ha : a.subject? = some m) (hb : b.subject? = some n) (hne : m ≠ n) :
    let x := (s.handle a).2.handle b
    let y := (s.handle b).2.handle a
    x.1 = (s.handle b).1 ∧ y.1 = (s.handle a).1 ∧
    x.2.snapshot.version = y.2.snapshot.version ∧
    (∀ name, x.2.snapshot.config.receiver? name = y.2.snapshot.config.receiver? name) ∧
    x.2.snapshot.table.receivers = y.2.snapshot.table.receivers ∧
    (x.2.snapshot.config.route = y.2.snapshot.config.route ∨
      ∃ r r', a = .add r ∧ b = .add r' ∧ (s.handle a).1 = .ok () ∧ (s.handle b).1 = .ok () ∧
        x.2.snapshot.config.route =
          y.2.snapshot.config.route.withReceiver x.2.snapshot.config.route.receiver) := by
  have hs := h.faithful hstart
  have hanswer := handle_fst_handle hs ha hb hne
  have hanswer' := handle_fst_handle hs hb ha hne.symm
  refine ⟨hanswer', hanswer, ?_⟩
  -- A request that is refused leaves the other one alone, in either order.
  cases hresult : (s.handle a).1 with
  | error e =>
      rw [hresult] at hanswer
      rw [handle_of_error hresult, handle_of_error hanswer]
      exact ⟨rfl, fun _ => rfl, rfl, .inl rfl⟩
  | ok u =>
      cases hresult' : (s.handle b).1 with
      | error e =>
          rw [hresult'] at hanswer'
          rw [handle_of_error hresult', handle_of_error hanswer']
          exact ⟨rfl, fun _ => rfl, rfl, .inl rfl⟩
      | ok u' =>
          rw [hresult] at hanswer
          rw [hresult'] at hanswer'
          obtain ⟨-, p, hp, heq⟩ := handle_of_ok hresult
          obtain ⟨-, p', hp', heq'⟩ := handle_of_ok hresult'
          rw [heq] at hanswer' ⊢
          rw [heq'] at hanswer ⊢
          obtain ⟨-, q, hq, hfirst⟩ := handle_of_ok hanswer'
          obtain ⟨-, q', hq', hfirst'⟩ := handle_of_ok hanswer
          have hr := Replaced.of_prepare hs ha hp
          have hr' := Replaced.of_prepare hs hb hp'
          have ht := Replaced.of_prepare (hs.publish hp) hb hq
          have ht' := Replaced.of_prepare (hs.publish hp') ha hq'
          obtain ⟨hreceivers, hintegrations⟩ := hr.comm hne ht hr' ht'
          rw [hfirst, hfirst']
          simp only [publish_snapshot, true_and]
          refine ⟨congrFun hreceivers, hintegrations, ?_⟩
          rw [ht.route, ht'.route, publish_snapshot, publish_snapshot, hr.route, hr'.route]
          refine (reroute_comm s.snapshot.config.route a b).imp_right ?_
          rintro ⟨r, r', rfl, rfl, hroute⟩
          exact ⟨r, r', rfl, rfl, hroute⟩

/-- Two receivers that no route names take over the root one after the other. -/
theorem requests_commute_root : ∃ s₀, start (.ofReceiver (.named "a")) .standard none = .ok s₀ ∧
    let a : ReconfigRequest := .add (.named "b")
    let b : ReconfigRequest := .add (.named "c")
    let x := (s₀.handle a).2.handle b
    let y := (s₀.handle b).2.handle a
    a.subject? = some "b" ∧ b.subject? = some "c" ∧ "b" ≠ "c" ∧
    x.2.snapshot.config.route.receiver = "c" ∧ y.2.snapshot.config.route.receiver = "b" ∧
    x.2.snapshot.config.receiverNames = ["a", "b", "c"] ∧
    y.2.snapshot.config.receiverNames = ["a", "c", "b"] ∧
    (∀ name, x.2.snapshot.config.receiver? name = y.2.snapshot.config.receiver? name) ∧
    x.2.snapshot.table.receivers = y.2.snapshot.table.receivers := by
  obtain ⟨s₀, hstart⟩ := exists_start
  have hcommute := requests_commute hstart .refl (a := .add (.named "b")) (b := .add (.named "c"))
    rfl rfl (show "b" ≠ "c" by decide)
  refine ⟨s₀, hstart, rfl, rfl, by decide, ?_, ?_, ?_, ?_, hcommute.2.2.2.1, hcommute.2.2.2.2.1⟩
  all_goals
    cases hstart
    rfl

end Coordinator

end AlertRouter
