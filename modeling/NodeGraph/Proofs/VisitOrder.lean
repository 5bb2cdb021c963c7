import NodeGraph.Proofs.RepeatedRebuild
import NodeGraph.Proofs.Upstream

/-!
# Types do not depend on the order of the visits

The full pass declares a node's inputs before it looks at them, so it runs in step with the same
pass over the graph with every input declared (`Graph.Tracks`). On an acyclic graph that pass
settles everything it reaches, so the full pass from every node, in any order, leaves each node
declared and settled and returns the same types (`Graph.fullPass_settles`). A rebuild whose graph
after the injection of defaults is acyclic leaves every node settled (`Graph.rebuild_settles`).
-/

namespace NodeGraph

namespace Graph

/-- `gc` is `g` with some nodes' inputs declared again: the same ids and properties, and under
every id the node of `g` or that node declared. -/
structure Declares (g gc : Graph) : Prop where
  ids : gc.ids = g.ids
  props : gc.props = g.props
  node : ∀ x, gc.node? x = g.node? x ∨ gc.node? x = (g.node? x).map Node.configure

/-- Runs from `g` to `g'` and from `gc` to `gc'` keep in step: `gc'` still declares `g'`, and a
node that was the same in `g` and `gc` is the same in `g'` and `gc'`. -/
structure Tracks (g gc g' gc' : Graph) : Prop where
  declares : Declares g' gc'
  keep : ∀ x, gc.node? x = g.node? x → gc'.node? x = g'.node? x

section Tracking

variable {g gc g₁ gc₁ g₂ gc₂ : Graph}

theorem declares_redeclared (g : Graph) : Declares g g.redeclared :=
  ⟨ids_redeclared g, rfl, fun x => .inr (node?_redeclared g x)⟩

theorem Declares.node?_eq_none (h : Declares g gc) {x : NodeId} :
    gc.node? x = none ↔ g.node? x = none := by
  rcases h.node x with h' | h' <;> simp [h']

theorem Declares.exists_node? (h : Declares g gc) {x : NodeId} {n : Node}
    (hx : g.node? x = some n) :
    gc.node? x = some n ∨ gc.node? x = some n.configure := by
  rcases h.node x with h' | h' <;> simp [h', hx]

theorem Tracks.refl (h : Declares g gc) : Tracks g gc g gc := ⟨h, fun _ hx => hx⟩

theorem Tracks.trans (h₁ : Tracks g gc g₁ gc₁) (h₂ : Tracks g₁ gc₁ g₂ gc₂) : Tracks g gc g₂ gc₂ :=
  ⟨h₂.declares, fun x hx => h₂.keep x (h₁.keep x hx)⟩

theorem Declares.updateNode (h : Declares g gc) {x : NodeId} {f : Node → Node}
    (hid : ∀ n, n.id = x → (f n).id = x) (hx : (gc.node? x).map f = (g.node? x).map f) :
    Tracks g gc (g.updateNode x f) (gc.updateNode x f) ∧
      (gc.updateNode x f).node? x = (g.updateNode x f).node? x := by
  have hsame : (gc.updateNode x f).node? x = (g.updateNode x f).node? x := by
    rw [node?_updateNode hid, node?_updateNode hid, if_pos rfl, if_pos rfl, hx]
  refine ⟨⟨⟨?_, h.props, fun y => ?_⟩, fun y hy => ?_⟩, hsame⟩
  · rw [ids_updateNode hid, ids_updateNode hid, h.ids]
  · by_cases hyx : y = x
    · subst hyx
      exact .inl hsame
    · rw [node?_updateNode hid, node?_updateNode hid, if_neg hyx, if_neg hyx]
      exact h.node y
  · by_cases hyx : y = x
    · subst hyx
      exact hsame
    · rw [node?_updateNode hid, node?_updateNode hid, if_neg hyx, if_neg hyx]
      exact hy

theorem Declares.configure (h : Declares g gc) (x : NodeId) :
    Tracks g gc (g.updateNode x Node.configure) (gc.updateNode x Node.configure) ∧
      (gc.updateNode x Node.configure).node? x = (g.updateNode x Node.configure).node? x := by
  refine h.updateNode (fun _ h => h) ?_
  rcases h.node x with h' | h'
  · rw [h']
  · rw [h', Option.map_map]
    cases g.node? x with
    | none => rfl
    | some n => exact congrArg some (Node.configure_configure n)

theorem Declares.resolveAt (h : Declares g gc) {x : NodeId} (hx : gc.node? x = g.node? x)
    (ts : List ValueType) :
    (gc.resolveAt x ts).1 = (g.resolveAt x ts).1 ∧
      Tracks g gc (g.resolveAt x ts).2 (gc.resolveAt x ts).2 ∧
      (gc.resolveAt x ts).2.node? x = (g.resolveAt x ts).2.node? x := by
  rw [resolveAt_eq, resolveAt_eq, hx, h.props]
  cases hn : g.node? x with
  | none => exact ⟨rfl, Tracks.refl h, hx⟩
  | some n =>
    have hid : ∀ m : Node, m.id = x → (n.settle ts g.props).id = x := fun _ _ => by
      rw [Node.id_settle, (node?_eq_some hn).2]
    exact ⟨rfl, h.updateNode hid (by rw [hx])⟩

theorem tracks_mapM (f : NodeId → StateM Graph ValueType) :
    ∀ xs : List NodeId, (∀ x ∈ xs, ∀ g gc, Declares g gc →
      ((f x).run gc).1 = ((f x).run g).1 ∧ Tracks g gc ((f x).run g).2 ((f x).run gc).2) →
    ∀ g gc, Declares g gc →
      ((xs.mapM f).run gc).1 = ((xs.mapM f).run g).1 ∧
        Tracks g gc ((xs.mapM f).run g).2 ((xs.mapM f).run gc).2
  | [], _, g, gc, h => ⟨rfl, Tracks.refl h⟩
  | x :: xs, hf, g, gc, h => by
    obtain ⟨hx, hxt⟩ := hf x List.mem_cons_self g gc h
    obtain ⟨hr, hrt⟩ := tracks_mapM f xs (fun y hy => hf y (List.mem_cons_of_mem x hy)) _ _
      hxt.declares
    rw [run_mapM_cons, run_mapM_cons, hx, hr]
    exact ⟨rfl, hxt.trans hrt⟩

/-- The full pass from a node keeps the runs in step, returns the same type in both, and leaves
the node it starts from the same in both (given any fuel at all). The induction is on the fuel. -/
theorem tracks_updateTypes (fuel : Nat) :
    ∀ (t : NodeId) (path : List NodeId) (g gc : Graph), Declares g gc →
      (updateTypes fuel t path gc).1 = (updateTypes fuel t path g).1 ∧
        Tracks g gc (updateTypes fuel t path g).2 (updateTypes fuel t path gc).2 ∧
        (fuel ≠ 0 →
          (updateTypes fuel t path gc).2.node? t = (updateTypes fuel t path g).2.node? t) := by
  induction fuel with
  | zero => exact fun _ _ g gc h => ⟨rfl, Tracks.refl h, fun h0 => absurd rfl h0⟩
  | succ fuel ih =>
    intro t path g gc h
    cases hn : g.node? t with
    | none =>
      -- no node under `t`: neither run changes anything
      have hc := h.node?_eq_none.mpr hn
      rw [updateTypes, updateTypes, hn, hc]
      exact ⟨rfl, Tracks.refl h, fun _ => hc.trans hn.symm⟩
    | some n =>
      obtain ⟨nc, hc⟩ : ∃ nc, gc.node? t = some nc := by
        rcases h.exists_node? hn with h' | h' <;> exact ⟨_, h'⟩
      obtain ⟨h₁, hsame₁⟩ := h.configure t
      rw [updateTypes, updateTypes, hn, hc]
      dsimp only
      by_cases hp : t ∈ path
      · -- on the path: both runs mark the declared node an error
        rw [if_pos hp, if_pos hp]
        obtain ⟨h₂, hsame₂⟩ := h₁.declares.updateNode (f := fun n => { n with type := .error })
          (fun _ h => h) (by rw [hsame₁])
        exact ⟨rfl, h₁.trans h₂, fun _ => hsame₂⟩
      · -- off the path: both runs visit the same targets, then resolve the same node
        rw [if_neg hp, if_neg hp, hsame₁]
        have hm := tracks_mapM (fun x => updateTypes fuel x (t :: path))
          (((g.updateNode t Node.configure).node? t).map Node.targets |>.getD [])
          (fun x _ => fun g gc h => (ih x (t :: path) g gc h).imp_right And.left)
          _ _ h₁.declares
        generalize StateT.run _ (g.updateNode t Node.configure) = p at hm ⊢
        generalize StateT.run _ (gc.updateNode t Node.configure) = pc at hm ⊢
        obtain ⟨ts, g₂⟩ := p
        obtain ⟨tsc, gc₂⟩ := pc
        dsimp only at hm ⊢
        obtain ⟨rfl, hm⟩ := hm
        obtain ⟨hr, h₃, hsame₃⟩ := hm.declares.resolveAt (hm.keep t hsame₁) tsc
        exact ⟨hr, h₁.trans (hm.trans h₃), fun _ => hsame₃⟩

/-- The full pass from many nodes in turn keeps the runs in step, returns the same types in both,
and leaves every node it starts from the same in both. -/
theorem tracks_fullPass : ∀ (roots : List NodeId) (g gc : Graph), Declares g gc →
    (gc.fullPass roots).1 = (g.fullPass roots).1 ∧
      Tracks g gc (g.fullPass roots).2 (gc.fullPass roots).2 ∧
      ∀ r ∈ roots, (gc.fullPass roots).2.node? r = (g.fullPass roots).2.node? r
  | [], g, gc, h => ⟨rfl, Tracks.refl h, fun _ hr => absurd hr List.not_mem_nil⟩
  | r :: rest, g, gc, h => by
    have hlen : gc.nodes.length = g.nodes.length := by
      simpa [ids] using congrArg List.length h.ids
    obtain ⟨hr, h₁, hsame⟩ := tracks_updateTypes (g.nodes.length + 2) r [] g gc h
    rw [fullPass, fullPass, updateTypesFrom, updateTypesFrom, hlen]
    generalize updateTypes (g.nodes.length + 2) r [] g = p at hr h₁ hsame ⊢
    generalize updateTypes (g.nodes.length + 2) r [] gc = pc at hr h₁ hsame ⊢
    obtain ⟨t, g₁⟩ := p
    obtain ⟨tc, gc₁⟩ := pc
    dsimp only at hr h₁ hsame ⊢
    obtain ⟨hrest, h₂, hsame'⟩ := tracks_fullPass rest g₁ gc₁ h₁.declares
    generalize g₁.fullPass rest = q at hrest h₂ hsame' ⊢
    generalize gc₁.fullPass rest = qc at hrest h₂ hsame' ⊢
    obtain ⟨ts, g₂⟩ := q
    obtain ⟨tsc, gc₂⟩ := qc
    dsimp only at hrest h₂ hsame' ⊢
    refine ⟨by rw [hr, hrest], h₁.trans h₂, fun x hx => ?_⟩
    rcases List.mem_cons.mp hx with rfl | hx
    · exact h₂.keep x (hsame (by omega))
    · exact hsame' x hx

end Tracking

/-- Declaring every node's inputs keeps the links among the nodes acyclic: a declared link reads
nothing, or what a link of its node read. -/
theorem Acyclic.redeclared {g : Graph} (hno : noNode ∉ g.ids) (h : g.Acyclic) :
    g.redeclared.Acyclic := by
  have hsub : ∀ a b, g.redeclared.Reads a b → g.Reads a b := by
    rintro a b ⟨ha, m, hm, hat⟩
    rw [node?_redeclared, Option.map_eq_some_iff] at hm
    obtain ⟨n, hn, rfl⟩ := hm
    rw [ids_redeclared] at ha
    rcases Node.targets_configure hat with rfl | hat
    · exact absurd ha hno
    · exact ⟨ha, n, hn, hat⟩
  exact fun x hx => h x (Relation.TransGen.mono hsub x x hx)

theorem configure_redeclared (g : Graph) : ∀ n ∈ g.redeclared.nodes, n.configure = n := by
  intro n hn
  obtain ⟨m, -, rfl⟩ := List.mem_map.mp hn
  exact Node.configure_configure m

/-- The full pass from every node of an acyclic graph, in any order, leaves each node declared and
settled from the types `σ` of the graph with its inputs declared, and returns those types. -/
theorem fullPass_settles {g : Graph} (hno : noNode ∉ g.ids) (hacyc : g.Acyclic) :
    ∃ σ, g.redeclared.Settles σ ∧ ∀ order : List NodeId, (∀ x ∈ g.ids, x ∈ order) →
      (g.fullPass order).1 = order.map σ ∧
        ∀ x, (g.fullPass order).2.node? x = g.redeclared.final σ x := by
  have hids : g.redeclared.ids = g.ids := ids_redeclared g
  obtain ⟨σ, hσ⟩ := (hacyc.redeclared hno).exists_settles
  refine ⟨σ, hσ, fun order hcover => ?_⟩
  -- the pass over the redeclared graph settles every node; the pass over `g` keeps in step
  obtain ⟨htypes, hv⟩ := fullPass_visit (hacyc.redeclared hno) hσ (hids ▸ hno)
    (configure_redeclared g) order g.redeclared (fun _ => False) (Ready.init (fun _ _ h => h) order)
  obtain ⟨htypes', ht, hsame⟩ := tracks_fullPass order g g.redeclared (declares_redeclared g)
  refine ⟨htypes'.symm.trans htypes, fun x => ?_⟩
  by_cases hx : x ∈ g.ids
  · rw [← hsame x (hcover x hx)]
    exact hv.inside x (hids ▸ hx) ⟨x, hcover x hx, Below.refl _ x⟩
  · have hnone : (g.redeclared.fullPass order).2.node? x = none :=
      hv.shape.node?_eq_none (hids ▸ hx)
    rw [ht.declares.node?_eq_none.mp hnone, final, node?_eq_none.mpr (hids ▸ hx), Option.map_none]

/-! ### The types a rebuild leaves -/

theorem reads_of_settled {g₀ g : Graph} {σ : NodeId → ValueType} (hno : noNode ∉ g₀.ids)
    (hids : g.ids = g₀.ids) (h : ∀ x, g.node? x = g₀.node? x ∨ g.node? x = g₀.final σ x)
    (a b : NodeId) (hab : g.Reads a b) : g₀.Reads a b := by
  obtain ⟨ha, m, hm, hat⟩ := hab
  rw [hids] at ha
  rcases h b with hb | hb
  · rw [hb] at hm
    exact ⟨ha, m, hm, hat⟩
  · rw [hb, final, Option.map_eq_some_iff] at hm
    obtain ⟨n, hn, rfl⟩ := hm
    rcases Node.targets_settle hat with rfl | hat
    · exact absurd ha hno
    · exact ⟨ha, n, hn, hat⟩

theorem foldl_updateTypesFrom (ids : List NodeId) :
    ∀ g : Graph, ids.foldl (fun g s => (g.updateTypesFrom s).2) g = (g.fullPass ids).2 := by
  induction ids with
  | nil => exact fun _ => rfl
  | cons s rest ih => exact fun g => ih _

theorem nodes_compileOutputs (g : Graph) :
    g.compileOutputs.nodes = (g.lightPass g.outputs).2.2.nodes := rfl

/-- The graph as the type passes of a rebuild leave it: the full pass from each sink, then from
each node the sinks do not reach. -/
def rebuildTyped (gi : Graph) : Graph :=
  let g₁ := (gi.fullPass gi.findSinks).2
  (g₁.fullPass (g₁.ids.filter (· ∉ g₁.feedersOf gi.findSinks))).2

theorem rebuild_typed {g gi : Graph} (hi : injectFallbacks.run g.redeclared = .ok ((), gi)) :
    ∃ g₃ : Graph, rebuild.run g = .ok ((), g₃.compileOutputs) ∧
      g₃.nodes = gi.rebuildTyped.nodes ∧ g₃.props = gi.rebuildTyped.props := by
  unfold rebuild
  rw [run_bind_of_ok (run_redeclare g), run_bind_of_ok hi, run_bind_of_ok (run_get gi)]
  dsimp only
  rw [foldl_updateTypesFrom, foldl_updateTypesFrom]
  split
  exact ⟨_, rfl, rfl, rfl⟩

/-- On an acyclic graph of nodes with their inputs declared, the type passes of a rebuild settle
every node: a node the second pass does not start from was reached from a sink in the first. -/
theorem rebuildTyped_settles {gi : Graph} {σ : NodeId → ValueType} (hacyc : gi.Acyclic)
    (hσ : gi.Settles σ) (hno : noNode ∉ gi.ids) (hconf : ∀ n ∈ gi.nodes, n.configure = n) :
    gi.NodesOnly gi.rebuildTyped ∧ ∀ x, gi.rebuildTyped.node? x = gi.final σ x := by
  unfold rebuildTyped
  dsimp only
  obtain ⟨-, hv₁⟩ := fullPass_visit hacyc hσ hno hconf gi.findSinks gi (fun _ => False)
    (Ready.init (fun _ _ h => h) _)
  generalize (gi.fullPass gi.findSinks).2 = g₁ at hv₁ ⊢
  -- the second pass starts where everything upstream of a sink is settled
  have hready : Ready gi σ (gi.Under gi.findSinks) (g₁.ids.filter (· ∉ g₁.feedersOf gi.findSinks))
      g₁ :=
    ⟨hv₁.shape, fun x hx _ hu => hv₁.inside x hx hu, fun x hx _ hu => hv₁.outside x hx hu,
      fun _ _ _ ⟨t, ht, hxt⟩ _ hy => ⟨t, ht, hy.trans hxt⟩⟩
  obtain ⟨-, hv₂⟩ := fullPass_visit hacyc hσ hno hconf _ g₁ _ hready
  generalize (g₁.fullPass _).2 = g₂ at hv₂ ⊢
  have hset₁ : ∀ x, g₁.node? x = gi.node? x ∨ g₁.node? x = gi.final σ x := by
    intro x
    by_cases hx : x ∈ gi.ids
    · by_cases hu : gi.Under gi.findSinks x
      · exact .inr (hv₁.inside x hx hu)
      · exact .inl (hv₁.outside x hx hu)
    · exact .inl (by rw [hv₁.shape.node?_eq_none hx, node?_eq_none.mpr hx])
  have hsub := reads_of_settled hno hv₁.shape.2 hset₁
  refine ⟨hv₂.shape, fun x => ?_⟩
  by_cases hx : x ∈ gi.ids
  · by_cases hu : gi.Under (g₁.ids.filter (· ∉ g₁.feedersOf gi.findSinks)) x
    · exact hv₂.inside x hx hu
    · rw [hv₂.outside x hx hu]
      -- `x` is no start of the second pass, so the walk from the sinks reached it
      have hreached : x ∈ g₁.feedersOf gi.findSinks := by
        by_contra hnot
        exact hu ⟨x, List.mem_filter.mpr ⟨hv₁.shape.2 ▸ hx, by simpa using hnot⟩, Below.refl _ x⟩
      obtain ⟨-, t, ht, hxt⟩ := (mem_feedersOf g₁ gi.findSinks x).mp hreached
      exact hv₁.inside x hx ⟨t, ht, Relation.ReflTransGen.mono hsub x t hxt⟩
  · rw [hv₂.shape.node?_eq_none hx, final, node?_eq_none.mpr hx, Option.map_none]

theorem final_settled {g : Graph} {σ : NodeId → ValueType} (hσ : σ noNode = .none)
    (hconf : ∀ n ∈ g.nodes, n.configure = n) (x : NodeId) :
    (g.final σ x).map (fun n => n.settle (n.targets.map σ) g.props) = g.final σ x := by
  unfold final
  cases hx : g.node? x with
  | none => rfl
  | some n => exact congrArg some (Node.settle_settle σ hσ (hconf n (node?_eq_some hx).1))

/-- A rebuild of a graph whose ids keep to the counters, where the graph after the injection of
defaults is acyclic, leaves every node declared and settled from the types `σ` of that graph. The
light pass over the outputs finds every node settled already and leaves it so. -/
theorem rebuild_settles {g g' gi : Graph} (hok : IdsOk g) (h : rebuild.run g = .ok ((), g'))
    (hi : injectFallbacks.run g.redeclared = .ok ((), gi)) (hno : noNode ∉ gi.ids)
    (hacyc : gi.Acyclic) : ∃ σ, gi.Settles σ ∧ ∀ x, g'.node? x = gi.final σ x := by
  have hI := injecting_injectFallbacks hok.redeclared (fun _ _ => configure_of_redeclared) hi
  have hconf : ∀ n ∈ gi.nodes, n.configure = n := fun n hn =>
    hI.configured n.id n (node?_of_mem hI.ok.nodup hn)
  obtain ⟨σ, hσ⟩ := hacyc.exists_settles
  refine ⟨σ, hσ, ?_⟩
  obtain ⟨hshape, htyped⟩ := rebuildTyped_settles hacyc hσ hno hconf
  obtain ⟨g₃, hrun, hnodes, hprops⟩ := rebuild_typed hi
  rw [hrun] at h
  cases h
  have h₃ : ∀ x, g₃.node? x = gi.final σ x := fun x => (node?_eq_of_nodes hnodes x).trans (htyped x)
  have hids₃ : g₃.ids = gi.ids := by rw [ids, hnodes, ← hshape.2, ids]
  have hprops₃ : g₃.props = gi.props := hprops.trans hshape.props_eq
  -- every node of `g₃` is settled from `σ`, so `σ` settles `g₃` too, which is acyclic
  have hsub := reads_of_settled hno hids₃ fun x => .inr (h₃ x)
  have hacyc₃ : g₃.Acyclic := fun x hx => hacyc x (Relation.TransGen.mono hsub x x hx)
  have hσ₃ : g₃.Settles σ := by
    intro x
    rw [h₃ x, hprops₃, hσ x, final]
    cases hx : gi.node? x with
    | none => rfl
    | some n =>
      dsimp only [Option.map_some]
      rw [Node.settle_settle σ (hσ.none hno) (hconf n (node?_eq_some hx).1)]
  obtain ⟨-, hv, -⟩ := lightPass_visit hacyc₃ hσ₃ g₃.outputs [] g₃
    (Ready.init (fun _ _ h => List.not_mem_nil h) _) List.nodup_nil
    (fun _ h => absurd h List.not_mem_nil)
  intro x
  rw [node?_eq_of_nodes (nodes_compileOutputs g₃) x]
  by_cases hx : x ∈ g₃.ids
  · by_cases hu : g₃.Under g₃.outputs x
    · rw [hv.inside x hx hu, final, h₃ x, hprops₃]
      exact final_settled (hσ.none hno) hconf x
    · rw [hv.outside x hx hu, h₃ x]
  · rw [hv.shape.node?_eq_none hx, ← h₃ x, node?_eq_none.mpr hx]

/-- Type propagation on a graph whose links form no cycle does not depend on the order of the
visits. The full pass from every node, in any order that lists each node, leaves each node with its
inputs declared and settled from the types `σ` of the graph so declared: resolved by its kind from
the types its inputs read (`none` for an id with no node), and an error where a required input
reads an error. A rebuild leaves every node so, for the types of the graph after the injection of
defaults, when that graph has no cycle. -/
theorem types_settle_in_any_order (g : Graph) :
    (noNode ∉ g.ids → g.Acyclic →
      ∃ σ, g.redeclared.Settles σ ∧ ∀ order : List NodeId, (∀ x ∈ g.ids, x ∈ order) →
        (g.fullPass order).1 = order.map σ ∧
          ∀ x, (g.fullPass order).2.node? x = g.redeclared.final σ x) ∧
    (∀ g' gi : Graph, IdsOk g → rebuild.run g = .ok ((), g') →
      injectFallbacks.run g.redeclared = .ok ((), gi) → noNode ∉ gi.ids → gi.Acyclic →
      ∃ σ, gi.Settles σ ∧ ∀ x, g'.node? x = gi.final σ x) :=
  ⟨fun hno hacyc => fullPass_settles hno hacyc,
    fun _ _ hok h hi hno hacyc => rebuild_settles hok h hi hno hacyc⟩

theorem diamond_acyclic : diamond.Acyclic :=
  Acyclic.of_rank id fun a b ⟨_, n, hn, ha⟩ => by
    obtain ⟨hmem, rfl⟩ := node?_eq_some hn
    exact diamond_reads_below n hmem a ha

/-- The random value read by an absolute value and, with it, by a sum: every order of the visits
settles the same types, and a rebuild, which injects no default, leaves them too. -/
theorem diamond_settles_in_any_order :
    noNode ∉ diamond.ids ∧ diamond.Acyclic ∧ IdsOk diamond ∧
      injectFallbacks.run diamond.redeclared = .ok ((), diamond.redeclared) ∧
      (∃ σ, diamond.redeclared.Settles σ ∧ ∀ order : List NodeId, (∀ x ∈ diamond.ids, x ∈ order) →
        (diamond.fullPass order).1 = order.map σ ∧
          ∀ x, (diamond.fullPass order).2.node? x = diamond.redeclared.final σ x) ∧
      ∃ g', rebuild.run diamond = .ok ((), g') ∧
        ∃ σ, diamond.redeclared.Settles σ ∧ ∀ x, g'.node? x = diamond.redeclared.final σ x := by
  have hno : noNode ∉ diamond.ids := by decide
  have hok : IdsOk diamond :=
    ⟨by decide, by decide, by decide, by decide, by decide, by decide, by decide⟩
  have hi : injectFallbacks.run diamond.redeclared = .ok ((), diamond.redeclared) := by rfl
  obtain ⟨g', hrun, -⟩ := rebuild_of_inject hi
  have h := types_settle_in_any_order diamond
  exact ⟨hno, diamond_acyclic, hok, hi, h.1 hno diamond_acyclic, g', hrun,
    h.2 g' _ hok hrun hi (by rwa [ids_redeclared]) (diamond_acyclic.redeclared hno)⟩

end Graph

end NodeGraph
