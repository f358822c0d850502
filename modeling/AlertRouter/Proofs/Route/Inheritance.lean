import AlertRouter.Proofs.Route.Compile

/-! # What the nodes of a compiled route are made of

A node has the matchers of its own settings (`RouteSettings.Spells`).  Each of its options is that
of the nearest settings that set it, going from the node up to the root, or else the initial one
(`RouteSettings.Nearest`).  The receiver and the labels to group by are not set if they are empty,
the times if they are absent; one induction serves all five (`RouteOptions.nearest_foldl_inherit`).

With the addresses of `Route.rel_of_compile` this describes the whole compiled tree
(`Route.compiled_iff_valid`). -/

namespace AlertRouter

namespace RouteSettings

variable {α : Type}

/-- The receiver, if the settings name one. -/
def receiver? (s : RouteSettings) : Option String :=
  if s.receiver = "" then none else some s.receiver

/-- The labels to group by, if the settings have any. -/
def groupBy? (s : RouteSettings) : Option (List String) :=
  if s.groupBy = [] then none else some s.groupBy

/-- Of the settings on the way to a node, the root first, the last ones that set an option set it to
`value`; if none do, `value` is the initial one. -/
def Nearest (set? : RouteSettings → Option α) (initial : α) (path : List RouteSettings)
    (value : α) : Prop :=
  (∃ before s after, path = before ++ s :: after ∧ set? s = some value ∧
    ∀ u ∈ after, set? u = none) ∨
  (∀ u ∈ path, set? u = none) ∧ value = initial

/-- The matchers that the conditions of a node stand for: the labels, then the patterns, both in the
order of the names, then the expressions. -/
def Spells (s : RouteSettings) (matchers : List Matcher) : Prop :=
  ∃ (patterns : List Matcher) (expressions : List (List Matcher)),
    s.patterns.entries.map (fun e => Matcher.ofComparison .regexp e.1 e.2) = patterns.map .ok ∧
    s.matchers.map Matcher.parseList = expressions.map .ok ∧
    matchers = s.labels.entries.map (fun e => Matcher.equal e.1 e.2) ++ patterns ++
      expressions.flatten

theorem conditions_eq_ok_iff {s : RouteSettings} {matchers : List Matcher} :
    s.conditions = .ok matchers ↔ s.Spells matchers := by
  simp only [conditions, Except.bind_def, Except.pure_def, Except.bind_eq_ok_iff,
    Except.mapM_eq_ok_iff, Except.ok.injEq]
  constructor
  · rintro ⟨patterns, hpatterns, expressions, hexpressions, rfl⟩
    exact ⟨patterns, expressions, hpatterns, hexpressions, rfl⟩
  · rintro ⟨patterns, expressions, hpatterns, hexpressions, rfl⟩
    exact ⟨patterns, hpatterns, expressions, hexpressions, rfl⟩

end RouteSettings

namespace RouteOptions

/-- An option that each node takes over, unless its settings set it, is that of the nearest settings
that do. -/
theorem nearest_foldl_inherit {α : Type} {set? : RouteSettings → Option α}
    (option : RouteOptions → α)
    (hinherit : ∀ o s, option (inherit o s) = (set? s).getD (option o)) (o : RouteOptions)
    (path : List RouteSettings) :
    RouteSettings.Nearest set? (option o) path (option (path.foldl inherit o)) := by
  induction path generalizing o with
  | nil => exact .inr ⟨nofun, rfl⟩
  | cons s path ih =>
      rw [List.foldl_cons]
      rcases ih (inherit o s) with ⟨before, u, after, rfl, hu, hafter⟩ | ⟨hunset, hvalue⟩
      · exact .inl ⟨s :: before, u, after, rfl, hu, hafter⟩
      · rw [hvalue, hinherit]
        cases hs : set? s with
        | none => exact .inr ⟨List.forall_mem_cons.mpr ⟨hs, hunset⟩, rfl⟩
        | some value => exact .inl ⟨[], s, path, rfl, hs, hunset⟩

theorem inherit_receiver (o : RouteOptions) (s : RouteSettings) :
    (inherit o s).receiver = s.receiver?.getD o.receiver := by
  unfold inherit RouteSettings.receiver?
  split
  · rfl
  · rfl

theorem inherit_groupBy (o : RouteOptions) (s : RouteSettings) :
    (inherit o s).groupBy = s.groupBy?.getD o.groupBy := by
  unfold inherit RouteSettings.groupBy?
  cases s.groupBy with
  | nil => rfl
  | cons label labels => rfl

end RouteOptions

/-- What the settings on the way to a node, the root first, make the node. -/
structure RouteNode.MadeOf (path : List RouteSettings) (n : RouteNode) : Prop where
  own : ∃ s, path.getLast? = some s ∧ n.continues = s.continues ∧ s.Spells n.matchers
  receiver : RouteSettings.Nearest (·.receiver?) "" path n.options.receiver
  groupBy : RouteSettings.Nearest (·.groupBy?) [] path n.options.groupBy
  groupWait : RouteSettings.Nearest (·.groupWait) 30 path n.options.groupWait
  groupInterval : RouteSettings.Nearest (·.groupInterval) 300 path n.options.groupInterval
  repeatInterval : RouteSettings.Nearest (·.repeatInterval) 14400 path n.options.repeatInterval

theorem Route.NodeOf.madeOf {path : List RouteSettings} {n : RouteNode}
    (h : NodeOf .initial path n) : n.MadeOf path := by
  have hoptions := h.options
  obtain ⟨s, hlast, hconditions, hcontinues⟩ := h.own
  refine ⟨⟨s, hlast, hcontinues, RouteSettings.conditions_eq_ok_iff.mp hconditions⟩,
    ?_, ?_, ?_, ?_, ?_⟩
  all_goals rw [hoptions]
  · exact RouteOptions.nearest_foldl_inherit (·.receiver) RouteOptions.inherit_receiver .initial
      path
  · exact RouteOptions.nearest_foldl_inherit (·.groupBy) RouteOptions.inherit_groupBy .initial path
  · exact RouteOptions.nearest_foldl_inherit (·.groupWait) (fun _ _ => rfl) .initial path
  · exact RouteOptions.nearest_foldl_inherit (·.groupInterval) (fun _ _ => rfl) .initial path
  · exact RouteOptions.nearest_foldl_inherit (·.repeatInterval) (fun _ _ => rfl) .initial path

/-- **What a route compiles to.**  A route compiles if and only if it passes validation.  The
compiled tree has nodes at the same addresses, and each of them is made of the settings on the way
to it. -/
theorem Route.compiled_iff_valid (r : RouteConfig) :
    ((∃ t, Route.ofConfig r = .ok t) ↔ r.validate = .ok ()) ∧
    ∀ t, Route.ofConfig r = .ok t →
      ∀ p, Option.Rel RouteNode.MadeOf (r.path? p) (t.value? p) := by
  refine ⟨Route.exists_ofConfig_iff, ?_⟩
  intro t h p
  have hrel := Route.rel_of_compile (Route.ofConfig_eq_ok_iff.mp h) p
  generalize r.path? p = path, t.value? p = value at hrel
  cases hrel with
  | none => exact .none
  | some hnode => exact .some hnode.madeOf

/-- A node two levels below the root takes its receiver over from the root, past a node that names
none, the labels to group by from that node, and has an interval of its own. -/
theorem Route.compiled_iff_valid_nested :
    let root : RouteSettings := { RouteSettings.ofReceiver "a" with groupWait := some 10 }
    let middle : RouteSettings := { RouteSettings.ofReceiver "" with
      labels := .ofList [("job", "b")], groupBy := ["job"] }
    let leaf : RouteSettings := { RouteSettings.ofReceiver "" with
      matchers := ["tier=\"1\""], repeatInterval := some 60 }
    let r : RouteConfig := .node root [.node middle [.node leaf []]]
    r.validate = .ok () ∧ ∃ t n, Route.ofConfig r = .ok t ∧ t.value? [0, 0] = some n ∧
      n.MadeOf [root, middle, leaf] ∧ n.options = ⟨"a", ["job"], 10, 300, 60⟩ ∧
      n.matchers = [.equal "tier" "1"] ∧ t.value? [0, 1] = none := by
  intro root middle leaf r
  have hvalid : r.validate = .ok () := rfl
  obtain ⟨t, ht⟩ := (Route.compiled_iff_valid r).1.mpr hvalid
  have hnode := (Route.compiled_iff_valid r).2 t ht [0, 0]
  have hpath : r.path? [0, 0] = some [root, middle, leaf] := rfl
  rw [hpath] at hnode
  generalize hvalue : t.value? [0, 0] = value at hnode
  cases hnode with
  | some hmade =>
      refine ⟨hvalid, t, _, ht, hvalue, hmade, ?_⟩
      cases ht
      cases hvalue
      exact ⟨rfl, rfl, rfl⟩

end AlertRouter
