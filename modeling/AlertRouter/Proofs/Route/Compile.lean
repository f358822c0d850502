import AlertRouter.Proofs.Outcome
import AlertRouter.Route.Basic

/-! # What a route compiles to

A node of a tree has an address: which child to take on each level on the way from the root.  The
compiled tree has nodes at the same addresses as the configured one, and each of them depends only
on the settings on the way to it (`Route.NodeOf`, `Route.rel_of_compile`): it has the matchers of
the last settings, and options that are inherited from one to the next.  The receiver, in
particular, is the last one that is named on the way (`RouteOptions.receiver_foldl_inherit`).

Compiling fails only for conditions that cannot be read, which is what `RouteConfig.validate` looks
for (`Route.exists_compile_iff`, `RouteConfig.validate_eq_ok_iff`). -/

namespace AlertRouter

namespace Tree

variable {α : Type} {t : Tree α} {ts : List (Tree α)} {a : α} {as : List α}

/-- Where a node is: the numbers of the children on the way from the root, counted from 0. -/
abbrev Address := List Nat

/-- The value at an address. -/
def value? : Tree α → Address → Option α
  | t, [] => some t.value
  | t, i :: p => t.children[i]?.bind fun u => value? u p

/-- The values on the way to an address, that of the root first. -/
def path? : Tree α → Address → Option (List α)
  | t, [] => some [t.value]
  | t, i :: p => (t.children[i]?.bind fun u => path? u p).map (t.value :: ·)

@[simp] theorem value?_nil (t : Tree α) : t.value? [] = some t.value := rfl

theorem value?_cons (t : Tree α) (i : Nat) (p : Address) :
    t.value? (i :: p) = t.children[i]?.bind (·.value? p) := rfl

theorem path?_cons (t : Tree α) (i : Nat) (p : Address) :
    t.path? (i :: p) = (t.children[i]?.bind (·.path? p)).map (t.value :: ·) := rfl

/-- Every way begins at the root. -/
theorem eq_cons_of_path? {p : Address} (h : t.path? p = some as) :
    ∃ rest, as = t.value :: rest := by
  cases p with
  | nil => exact ⟨[], (Option.some.inj h).symm⟩
  | cons i p =>
      obtain ⟨rest, -, rfl⟩ := Option.map_eq_some_iff.mp h
      exact ⟨rest, rfl⟩

/-- With another value at the root the ways are otherwise the same. -/
theorem path?_setValue_cases (t : Tree α) (a : α) (p : Address) :
    (t.path? p = none ∧ (t.setValue a).path? p = none) ∨
    ∃ rest, t.path? p = some (t.value :: rest) ∧ (t.setValue a).path? p = some (a :: rest) := by
  obtain ⟨b, ts⟩ := t
  cases p with
  | nil => exact .inr ⟨[], rfl, rfl⟩
  | cons i p =>
      cases hbelow : ts[i]?.bind (·.path? p) with
      | none => exact .inl ⟨congrArg (Option.map _) hbelow, congrArg (Option.map _) hbelow⟩
      | some rest =>
          exact .inr ⟨rest, congrArg (Option.map _) hbelow, congrArg (Option.map _) hbelow⟩

theorem mem_toListAll_iff : a ∈ toListAll ts ↔ ∃ t ∈ ts, a ∈ t.toList := by
  induction ts with
  | nil => simp [toListAll]
  | cons t ts ih => simp [toListAll, ih]

theorem mem_toList_iff : a ∈ t.toList ↔ a = t.value ∨ ∃ u ∈ t.children, a ∈ u.toList := by
  obtain ⟨b, ts⟩ := t
  rw [toList, List.mem_cons, mem_toListAll_iff]
  rfl

/-- What lies on the way to a node lies in the tree. -/
theorem mem_toList_of_path? {p : Address} (h : t.path? p = some as) (ha : a ∈ as) :
    a ∈ t.toList := by
  induction p generalizing t as with
  | nil =>
      cases h
      exact mem_toList_iff.mpr (.inl (List.mem_singleton.mp ha))
  | cons i p ih =>
      rw [path?_cons] at h
      obtain ⟨rest, hrest, rfl⟩ := Option.map_eq_some_iff.mp h
      obtain ⟨u, hu, hpath⟩ := Option.bind_eq_some_iff.mp hrest
      rcases List.mem_cons.mp ha with rfl | ha
      · exact mem_toList_iff.mpr (.inl rfl)
      · exact mem_toList_iff.mpr (.inr ⟨u, List.mem_of_getElem? hu, ih hpath ha⟩)

end Tree

/-! ### Inherited options -/

namespace RouteOptions

/-- The receiver is the last one that is named, or else the one above. -/
theorem receiver_foldl_inherit (o : RouteOptions) (ss : List RouteSettings) :
    (ss.foldl inherit o).receiver =
      ((ss.map (·.receiver)).filter (· != "")).getLastD o.receiver := by
  induction ss generalizing o with
  | nil => rfl
  | cons s ss ih =>
      rw [List.foldl_cons, ih, List.map_cons]
      by_cases hs : s.receiver = ""
      · rw [List.filter_cons_of_neg (by simp [hs])]
        simp [inherit, hs]
      · rw [List.filter_cons_of_pos (by simp [hs]), List.getLastD_cons]
        simp [inherit, hs]

end RouteOptions

/-- The last receiver that is named in some settings. -/
def RouteConfig.lastReceiver (ss : List RouteSettings) : String :=
  ((ss.map (·.receiver)).filter (· != "")).getLastD ""

namespace Route

variable {above : RouteOptions} {s : RouteSettings} {rs : List RouteConfig} {r : RouteConfig}
  {t : Route} {ts : List Route}

/-! ### Compiling succeeds -/

theorem compileAll_eq_mapM : compileAll above rs = rs.mapM (compile above) := by
  induction rs with
  | nil => rfl
  | cons r rs ih =>
      rw [compileAll, List.mapM_cons, ih]
      cases compile above r with
      | error e => rfl
      | ok t => cases rs.mapM (compile above) <;> rfl

theorem compile_node_eq_ok_iff :
    compile above (.node s rs) = .ok t ↔ ∃ ms ts, s.conditions = .ok ms ∧
      rs.map (compile (above.inherit s)) = ts.map .ok ∧
      t = .node ⟨ms, above.inherit s, s.continues⟩ ts := by
  simp only [compile, compileAll_eq_mapM, Except.bind_eq_ok_iff, Except.map_eq_ok_iff,
    Except.mapM_eq_ok_iff]
  constructor
  · rintro ⟨ts, hts, ms, hms, rfl⟩
    exact ⟨ms, ts, hms, hts, rfl⟩
  · rintro ⟨ms, ts, hms, hts, rfl⟩
    exact ⟨ts, hts, ms, hms, rfl⟩

mutual

/-- A route can be compiled if all its conditions can be read. -/
theorem exists_compile_iff (above : RouteOptions) : ∀ r : RouteConfig,
    (∃ t, compile above r = .ok t) ↔ ∀ s ∈ r.toList, ∃ ms, s.conditions = .ok ms
  | .node s rs => by
      have hbelow := exists_compileAll_iff (above.inherit s) rs
      simp only [compile_node_eq_ok_iff, Tree.toList, List.forall_mem_cons, ← hbelow]
      constructor
      · rintro ⟨_, ms, ts, hms, hts, -⟩
        exact ⟨⟨ms, hms⟩, ts, hts⟩
      · rintro ⟨⟨ms, hms⟩, ts, hts⟩
        exact ⟨_, ms, ts, hms, hts, rfl⟩

theorem exists_compileAll_iff (above : RouteOptions) : ∀ rs : List RouteConfig,
    (∃ ts : List Route, rs.map (compile above) = ts.map .ok) ↔
      ∀ s ∈ Tree.toListAll rs, ∃ ms, s.conditions = .ok ms
  | [] => by
      simp only [Tree.toListAll, List.not_mem_nil, false_imp_iff, implies_true, iff_true]
      exact ⟨[], rfl⟩
  | r :: rs => by
      have hhead := exists_compile_iff above r
      have htail := exists_compileAll_iff above rs
      simp only [Tree.toListAll, List.forall_mem_append, ← hhead, ← htail, List.map_cons]
      constructor
      · rintro ⟨ts, hts⟩
        cases ts with
        | nil => cases hts
        | cons t ts =>
            obtain ⟨ht, hts⟩ := List.cons.inj hts
            exact ⟨⟨t, ht⟩, ts, hts⟩
      · rintro ⟨⟨t, ht⟩, ts, hts⟩
        exact ⟨t :: ts, by rw [ht, hts, List.map_cons]⟩

end

/-! ### The nodes of the compiled tree -/

/-- The node that settings are compiled to, below the options `above`; the settings are those on the
way to it. -/
structure NodeOf (above : RouteOptions) (ss : List RouteSettings) (n : RouteNode) : Prop where
  own : ∃ s, ss.getLast? = some s ∧ s.conditions = .ok n.matchers ∧ n.continues = s.continues
  options : n.options = ss.foldl RouteOptions.inherit above

theorem NodeOf.cons {ss : List RouteSettings} {n : RouteNode} (h : NodeOf (above.inherit s) ss n) :
    NodeOf above (s :: ss) n := by
  obtain ⟨own, hlast, hown⟩ := h.own
  exact ⟨⟨own, by rw [List.getLast?_cons, hlast]; rfl, hown⟩, h.options⟩

/-- **Each node of the compiled tree is made of the settings on the way to it.** -/
theorem rel_of_compile (h : compile above r = .ok t) (p : Tree.Address) :
    Option.Rel (NodeOf above) (r.path? p) (t.value? p) := by
  induction p generalizing above r t with
  | nil =>
      obtain ⟨s, rs⟩ := r
      obtain ⟨ms, ts, hms, -, rfl⟩ := compile_node_eq_ok_iff.mp h
      exact .some ⟨⟨s, rfl, hms, rfl⟩, rfl⟩
  | cons i p ih =>
      obtain ⟨s, rs⟩ := r
      obtain ⟨ms, ts, -, hts, rfl⟩ := compile_node_eq_ok_iff.mp h
      have hchild : rs[i]?.map (compile (above.inherit s)) = ts[i]?.map .ok := by
        rw [← List.getElem?_map, hts, List.getElem?_map]
      rw [Tree.path?_cons, Tree.value?_cons]
      simp only [Tree.children, Tree.value]
      cases hr : rs[i]? with
      | none =>
          rw [hr, Option.map_none, eq_comm, Option.map_eq_none_iff] at hchild
          rw [hchild]
          exact .none
      | some r =>
          rw [hr, Option.map_some, eq_comm, Option.map_eq_some_iff] at hchild
          obtain ⟨t, ht, hcompile⟩ := hchild
          rw [ht]
          simp only [Option.bind_some]
          have hrel := ih hcompile.symm
          generalize r.path? p = path, t.value? p = value at hrel
          cases hrel with
          | none => exact .none
          | some hnode => exact .some hnode.cons

/-! ### Routes of a configuration -/

theorem ofConfig_eq_ok_iff : ofConfig r = .ok t ↔ compile .initial r = .ok t :=
  Except.mapError_eq_ok_iff

/-- The receiver of the node at an address. -/
def receiver? (t : Route) (p : Tree.Address) : Option String :=
  (t.value? p).map (·.options.receiver)

/-- **The receiver of a node is the last one that is named on the way to it.** -/
theorem receiver?_of_ofConfig (h : ofConfig r = .ok t) (p : Tree.Address) :
    t.receiver? p = (r.path? p).map RouteConfig.lastReceiver := by
  have hrel := rel_of_compile (ofConfig_eq_ok_iff.mp h) p
  unfold receiver?
  generalize r.path? p = path, t.value? p = value at hrel
  cases hrel with
  | none => rfl
  | some hnode =>
      rw [Option.map_some, Option.map_some, hnode.options, RouteOptions.receiver_foldl_inherit]
      rfl

end Route

theorem RouteConfig.validate_eq_ok_iff {r : RouteConfig} :
    r.validate = .ok () ↔ ∀ s ∈ r.toList, ∃ ms, s.conditions = .ok ms := by
  rw [RouteConfig.validate, Except.forM_eq_ok_iff]
  simp

/-- **A route can be compiled if and only if it passes validation.** -/
theorem Route.exists_ofConfig_iff {r : RouteConfig} :
    (∃ t, Route.ofConfig r = .ok t) ↔ r.validate = .ok () := by
  simp only [Route.ofConfig_eq_ok_iff, Route.exists_compile_iff, RouteConfig.validate_eq_ok_iff]

end AlertRouter
