import AlertRouter.Proofs.Routing.Table
import AlertRouter.Proofs.Routing.Run

/-! # What a request is prepared to

For each of the four requests: when it can be prepared, and the next configuration and table.  A
receiver is added or edited with the global settings that are in force, and the routes are compiled
again; a deletion leaves the routes alone; an update takes nothing over. -/

namespace AlertRouter

namespace Coordinator

variable {s : Coordinator} {next : Prepared} {receiver : Receiver}

/-- The routes with a new receiver: it becomes that of the root if no route names it. -/
def reroute (route : RouteConfig) (name : String) : RouteConfig :=
  if route.references name then route else route.withReceiver name

theorem withRoute_eq_ok_iff {t : RoutingTable} {route : RouteConfig} {root : Option String}
    {p : RouteConfig × RoutingTable} :
    t.withRoute route root = .ok p ↔
      ∃ compiled, Route.ofConfig (root.elim route route.withReceiver) = .ok compiled ∧
        p = (root.elim route route.withReceiver, { t with route := compiled }) := by
  unfold RoutingTable.withRoute
  cases root with
  | none => simp [@eq_comm _ p]
  | some name => simp [@eq_comm _ p]

theorem prepareAdd_eq_ok_iff :
    s.prepareAdd receiver = .ok next ↔
      receiver.name ≠ "" ∧ s.snapshot.table.contains receiver.name = false ∧
      ∃ is compiled, s.build receiver = .ok is ∧
        Route.ofConfig (reroute s.snapshot.config.route receiver.name) = .ok compiled ∧
        next = ({ s.snapshot.config with
            receivers := s.snapshot.config.receivers ++ [receiver]
            route := reroute s.snapshot.config.route receiver.name },
          ⟨s.snapshot.table.receivers.insert receiver.name is, compiled⟩) := by
  have hroute : (if s.snapshot.config.route.references receiver.name then none
      else some receiver.name).elim s.snapshot.config.route s.snapshot.config.route.withReceiver =
        reroute s.snapshot.config.route receiver.name := by
    unfold reroute
    split <;> rfl
  simp only [prepareAdd, Except.bind_def, Except.pure_def, Except.throw_def]
  by_cases hname : receiver.name = ""
  · simp [hname]
  cases hcontains : s.snapshot.table.contains receiver.name with
  | true => simp [hname]
  | false =>
      simp only [hname, if_false, Bool.false_eq_true, Except.bind_eq_ok_iff, withRoute_eq_ok_iff,
        hroute, RoutingTable.add_eq_ok_iff, hcontains, Except.ok.injEq]
      constructor
      · rintro ⟨is, his, _, ⟨-, rfl⟩, _, ⟨compiled, hcompiled, rfl⟩, rfl⟩
        exact ⟨hname, trivial, is, compiled, his, hcompiled, rfl⟩
      · rintro ⟨-, -, is, compiled, his, hcompiled, rfl⟩
        exact ⟨is, his, _, ⟨trivial, rfl⟩, _, ⟨compiled, hcompiled, rfl⟩, rfl⟩

theorem prepareEdit_eq_ok_iff :
    s.prepareEdit receiver = .ok next ↔
      s.snapshot.table.contains receiver.name = true ∧
      ∃ is compiled, s.build receiver = .ok is ∧
        Route.ofConfig s.snapshot.config.route = .ok compiled ∧
        next = ({ s.snapshot.config with
            receivers := replaceReceiver receiver s.snapshot.config.receivers },
          ⟨(s.snapshot.table.receivers.erase receiver.name).insert receiver.name is,
            compiled⟩) := by
  simp only [prepareEdit, Except.bind_def, Except.pure_def, Except.throw_def]
  cases hcontains : s.snapshot.table.contains receiver.name with
  | false => simp
  | true =>
      simp only [Bool.not_true, Bool.false_eq_true, if_false, Except.bind_eq_ok_iff,
        RoutingTable.replace_eq_ok_iff, withRoute_eq_ok_iff, Option.elim_none, hcontains,
        Except.ok.injEq]
      constructor
      · rintro ⟨is, his, _, ⟨-, rfl⟩, _, ⟨compiled, hcompiled, rfl⟩, rfl⟩
        exact ⟨trivial, is, compiled, his, hcompiled, rfl⟩
      · rintro ⟨-, is, compiled, his, hcompiled, rfl⟩
        exact ⟨is, his, _, ⟨trivial, rfl⟩, _, ⟨compiled, hcompiled, rfl⟩, rfl⟩

theorem prepareDelete_eq_ok_iff {name : String} :
    s.prepareDelete name = .ok next ↔ s.snapshot.table.contains name = true ∧
      next = ({ s.snapshot.config with
          receivers := s.snapshot.config.receivers.filter (·.name != name) },
        { s.snapshot.table with receivers := s.snapshot.table.receivers.erase name }) := by
  simp only [prepareDelete, Except.map_eq_ok_iff, RoutingTable.delete_eq_ok_iff,
    RoutingTable.contains, SortedMap.contains, Option.isSome_iff_exists]
  constructor
  · rintro ⟨_, ⟨is, his, rfl⟩, rfl⟩
    exact ⟨⟨is, his⟩, rfl⟩
  · rintro ⟨⟨is, his⟩, rfl⟩
    exact ⟨_, ⟨is, his, rfl⟩, rfl⟩

theorem prepareUpdate_eq_ok_iff {c : Config} :
    s.prepareUpdate c = .ok next ↔ c.validate = .ok () ∧ next.1 = c ∧
      RoutingTable.ofConfig c s.registry s.link = .ok next.2 := by
  simp only [prepareUpdate, Except.bind_eq_ok_iff, Except.map_eq_ok_iff]
  constructor
  · rintro ⟨_, hvalid, table, htable, rfl⟩
    exact ⟨hvalid, rfl, htable⟩
  · rintro ⟨hvalid, rfl, htable⟩
    exact ⟨(), hvalid, _, htable, rfl⟩

end Coordinator

end AlertRouter
