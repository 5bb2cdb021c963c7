import NodeGraph.Proofs.DefaultInjection

/-!
# A rebuild after a rebuild

The type passes of a rebuild change inputs only by narrowing them: every node keeps its id and kind
and declares only inputs it declared before or inputs that take no default (`Graph.Narrows`). So a
rebuild leaves every declared input served (`Graph.rebuild_served`), and a rebuild right after it
succeeds and creates and removes no node (`Graph.rebuild_rebuild_ids`), though its outputs and
types may still differ from those of the first.
-/

namespace NodeGraph

namespace Graph

/-- `g'` has the nodes of `g`, in order, each following the node of `g` under its id. -/
def Narrows (g g' : Graph) : Prop :=
  g'.ids = g.ids ∧ ∀ x n', g'.node? x = some n' → ∃ n, g.node? x = some n ∧ n.Follows n'

theorem Narrows.refl (g : Graph) : g.Narrows g :=
  ⟨rfl, fun _ n hx => ⟨n, hx, Node.Follows.refl n⟩⟩

theorem Narrows.trans {g₁ g₂ g₃ : Graph} (h₁ : g₁.Narrows g₂) (h₂ : g₂.Narrows g₃) :
    g₁.Narrows g₃ := by
  refine ⟨h₂.1.trans h₁.1, fun x n₃ hx => ?_⟩
  obtain ⟨n₂, hx₂, hf₂⟩ := h₂.2 x n₃ hx
  obtain ⟨n₁, hx₁, hf₁⟩ := h₁.2 x n₂ hx₂
  exact ⟨n₁, hx₁, hf₁.trans hf₂⟩

theorem Narrows.of_nodes {g g' : Graph} (h : g'.nodes = g.nodes) : g.Narrows g' :=
  ⟨by rw [ids, h, ids],
    fun x n hx => ⟨n, (node?_eq_of_nodes h x).symm.trans hx, Node.Follows.refl n⟩⟩

/-- Changing the node under an id into one that follows it narrows the graph. -/
theorem Narrows.updateNode (g : Graph) (id : NodeId) {f : Node → Node}
    (hid : ∀ n, n.id = id → (f n).id = id) (hf : ∀ n, g.node? id = some n → n.Follows (f n)) :
    g.Narrows (g.updateNode id f) := by
  refine ⟨ids_updateNode hid, fun x n' hx => ?_⟩
  rw [node?_updateNode hid] at hx
  split at hx
  · rename_i hxid
    subst hxid
    obtain ⟨n, hn, rfl⟩ := Option.map_eq_some_iff.mp hx
    exact ⟨n, hn, hf n hn⟩
  · exact ⟨n', hx, Node.Follows.refl n'⟩

theorem Narrows.resolveAt (g : Graph) (id : NodeId) (ts : List ValueType) :
    g.Narrows (g.resolveAt id ts).2 := by
  rw [resolveAt_eq]
  split
  · exact Narrows.refl g
  · rename_i n hn
    have hnid : n.id = id := (node?_eq_some hn).2
    refine Narrows.updateNode g id (fun _ _ => by rw [Node.id_settle, hnid]) fun m hm => ?_
    rw [hn, Option.some_inj] at hm
    subst hm
    exact Node.follows_settle _ _ _

/-- Narrowing keeps every default that fits. -/
theorem Narrows.fits {g g' : Graph} (h : g.Narrows g') {c : NodeId} {t : ValueType}
    (hfit : g.fits c t = true) : g'.fits c t = true := by
  refine fits_of_kind (fun n hn => ?_) hfit
  -- the id is still there, and finds a node following the one it found
  have hmem : c ∈ g'.ids := h.1 ▸ mem_ids_of_node? hn
  obtain ⟨n', hn'⟩ := Option.ne_none_iff_exists'.mp fun hc => node?_eq_none.mp hc hmem
  obtain ⟨m, hm, hk, -⟩ := h.2 c n' hn'
  rw [hn, Option.some_inj] at hm
  subst hm
  exact ⟨n', hn', hk⟩

theorem Narrows.served {g g' : Graph} (h : g.Narrows g') (hS : g.Served) : g'.Served := by
  intro x n' hx l hl
  obtain ⟨n, hn, -, hsub⟩ := h.2 x n' hx
  rcases hsub l hl with hl | hl
  · exact (hS x n hn l hl).mono fun _ _ => h.fits
  · exact .inl hl

/-! ### Relations kept by the type passes -/

section Passes

variable (R : Graph → Graph → Prop) (hrefl : ∀ g, R g g)
  (htrans : ∀ {g₁ g₂ g₃}, R g₁ g₂ → R g₂ g₃ → R g₁ g₃)
  (hres : ∀ g id ts, R g (g.resolveAt id ts).2)

include hrefl htrans hres

/-- The full type pass keeps every reflexive and transitive relation that declaring a node's
inputs again, marking it an error and resolving it keep. -/
theorem rel_updateTypes (hconf : ∀ g id, R g (g.updateNode id Node.configure))
    (herr : ∀ g id, R g (g.updateNode id fun n => { n with type := .error })) (fuel : Nat) :
    ∀ id path g, R g (updateTypes fuel id path g).2 := by
  induction fuel with
  | zero => exact fun _ _ g => hrefl g
  | succ fuel ih =>
    intro id path g
    rw [updateTypes]
    split
    · exact hrefl g
    · dsimp only
      split
      · exact htrans (hconf g id) (herr _ id)
      · have hargs := rel_mapM R hrefl htrans (fun t g => updateTypes fuel t (id :: path) g)
          (fun t g => ih t _ g)
          (((g.updateNode id Node.configure).node? id).map Node.targets |>.getD [])
          (g.updateNode id Node.configure)
        generalize StateT.run _ _ = p at hargs ⊢
        obtain ⟨ts, g₂⟩ := p
        exact htrans (hconf g id) (htrans hargs (hres g₂ id ts))

/-- The light type pass keeps every reflexive and transitive relation that resolving keeps. -/
theorem rel_updateTypesLight (fuel : Nat) :
    ∀ id resolved g, R g (updateTypesLight fuel id resolved g).2.2 := by
  induction fuel with
  | zero => exact fun _ _ g => hrefl g
  | succ fuel ih =>
    intro id resolved g
    rw [updateTypesLight]
    split
    · exact hrefl g
    · rename_i n _
      dsimp only
      split
      · exact hrefl g
      · have hargs := rel_mapM (fun s s' : List NodeId × Graph => R s.2 s'.2) (fun s => hrefl s.2)
          htrans (fun t s => updateTypesLight fuel t s.1 s.2) (fun t s => ih t s.1 s.2) n.targets
          (resolved ++ [id], g)
        generalize StateT.run _ _ = p at hargs ⊢
        obtain ⟨ts, resolved', g₂⟩ := p
        exact htrans hargs (hres g₂ id ts)

theorem rel_lightPass (ids : List NodeId) : ∀ resolved g, R g (g.lightPass ids resolved).2.2 := by
  induction ids with
  | nil => exact fun _ g => hrefl g
  | cons id rest ih =>
    intro resolved g
    rw [lightPass]
    exact htrans (rel_updateTypesLight R hrefl htrans hres _ id resolved g) (ih _ _)

end Passes

theorem narrows_updateTypesFrom (g : Graph) (id : NodeId) : g.Narrows (g.updateTypesFrom id).2 :=
  rel_updateTypes Narrows Narrows.refl Narrows.trans Narrows.resolveAt
    (fun g id => Narrows.updateNode g id (fun _ h => h) fun n _ => Node.follows_configure n)
    (fun g id => Narrows.updateNode g id (fun _ h => h) fun _ _ => Node.follows_of_inputs rfl rfl)
    _ id [] g

theorem narrows_foldl_updateTypesFrom (ids : List NodeId) :
    ∀ g : Graph, g.Narrows (ids.foldl (fun g s => (g.updateTypesFrom s).2) g) := by
  induction ids with
  | nil => exact Narrows.refl
  | cons id rest ih => exact fun g => (narrows_updateTypesFrom g id).trans (ih _)

theorem narrows_compileOutputs (g : Graph) : g.Narrows g.compileOutputs := by
  have hl := rel_lightPass Narrows Narrows.refl Narrows.trans Narrows.resolveAt g.outputs [] g
  unfold compileOutputs
  generalize g.lightPass g.outputs [] = p at hl ⊢
  obtain ⟨_, _, g₁⟩ := p
  exact hl.trans (Narrows.of_nodes rfl)

/-! ### A rebuild after a rebuild -/

/-- The graph as a rebuild first leaves it: every node's inputs declared again. -/
def redeclared (g : Graph) : Graph := { g with dirty := false, nodes := g.nodes.map Node.configure }

theorem node?_redeclared (g : Graph) (x : NodeId) :
    g.redeclared.node? x = (g.node? x).map Node.configure := by
  unfold redeclared node?
  rw [List.find?_map]
  rfl

theorem ids_redeclared (g : Graph) : g.redeclared.ids = g.ids := by
  simp only [redeclared, ids, List.map_map]
  rfl

theorem fits_redeclared (g : Graph) (c : NodeId) (t : ValueType) :
    g.redeclared.fits c t = g.fits c t := by
  unfold fits
  rw [node?_redeclared]
  cases g.node? c <;> rfl

theorem IdsOk.redeclared {g : Graph} (hok : IdsOk g) : IdsOk g.redeclared :=
  hok.keeps (Keeps.of_map Node.configure rfl rfl rfl (fun _ _ => rfl) fun n hn =>
    (tame_configure g n hn).2)

theorem configure_of_redeclared {g : Graph} {x : NodeId} {n : Node}
    (hx : g.redeclared.node? x = some n) : n.configure = n := by
  rw [node?_redeclared, Option.map_eq_some_iff] at hx
  obtain ⟨m, -, rfl⟩ := hx
  exact Node.configure_configure m

/-- Declaring every node's inputs again serves every input when the declared inputs were served. -/
theorem Served.redeclared {g : Graph} (hS : g.Served) : g.redeclared.InputsServed := by
  intro x n hx l hl
  rw [node?_redeclared, Option.map_eq_some_iff] at hx
  obtain ⟨m, hm, rfl⟩ := hx
  exact (hS x m hm l hl).mono fun c t h => by rw [fits_redeclared]; exact h

/-- The first step of a rebuild. -/
theorem run_redeclare (g : Graph) :
    (modify (fun g : Graph => { g with dirty := false, nodes := g.nodes.map Node.configure }) :
      GraphM PUnit).run g = .ok (PUnit.unit, g.redeclared) := rfl

/-- A rebuild that succeeds injected defaults into the graph with its inputs declared again. -/
theorem inject_of_rebuild {g g₁ : Graph} {u : Unit} (h : rebuild.run g = .ok (u, g₁)) :
    ∃ gi, injectFallbacks.run g.redeclared = .ok ((), gi) := by
  unfold rebuild at h
  obtain ⟨_, gc, hc, h⟩ := run_bind_eq_ok h
  cases hc
  obtain ⟨_, gi, hi, -⟩ := run_bind_eq_ok h
  exact ⟨gi, hi⟩

/-- After the injection of defaults a rebuild succeeds, and only narrows the graph. -/
theorem rebuild_of_inject {g gi : Graph} (hi : injectFallbacks.run g.redeclared = .ok ((), gi)) :
    ∃ g₁, rebuild.run g = .ok ((), g₁) ∧ gi.Narrows g₁ := by
  unfold rebuild
  rw [run_bind_of_ok (run_redeclare g), run_bind_of_ok hi, run_bind_of_ok (run_get gi)]
  dsimp only
  generalize hg₁ : List.foldl (fun g s => (g.updateTypesFrom s).2) gi _ = g₁
  generalize hg₂ : List.foldl (fun g s => (g.updateTypesFrom s).2) g₁ _ = g₂
  have hn₁ : gi.Narrows g₁ := hg₁ ▸ narrows_foldl_updateTypesFrom _ gi
  have hn₂ : g₁.Narrows g₂ := hg₂ ▸ narrows_foldl_updateTypesFrom _ g₁
  split
  exact ⟨_, rfl, (hn₁.trans (hn₂.trans (Narrows.of_nodes rfl))).trans (narrows_compileOutputs _)⟩

/-- A rebuild leaves every input its nodes declare served. -/
theorem rebuild_served {g g₁ : Graph} (hok : IdsOk g) (h : rebuild.run g = .ok ((), g₁)) :
    g₁.Served := by
  obtain ⟨gi, hi⟩ := inject_of_rebuild h
  obtain ⟨g₁', hrun, hn⟩ := rebuild_of_inject hi
  rw [hrun] at h
  cases h
  exact hn.served (injectFallbacks_served hok.redeclared (fun _ _ => configure_of_redeclared) hi)

/-- A rebuild right after a rebuild succeeds and creates and removes no node. -/
theorem rebuild_rebuild_ids {g g₁ : Graph} (hok : IdsOk g) (h : rebuild.run g = .ok ((), g₁)) :
    ∃ g₂, rebuild.run g₁ = .ok ((), g₂) ∧ g₂.ids = g₁.ids := by
  obtain ⟨gi, hi, hids⟩ := injectFallbacks_of_served (rebuild_served hok h).redeclared
  obtain ⟨g₂, hrun, hn⟩ := rebuild_of_inject hi
  exact ⟨g₂, hrun, hn.1.trans (hids.trans (ids_redeclared g₁))⟩

/-- A sum (node 1) of two unwired inputs: a rebuild gives each a new default. -/
def addGraph : Graph where
  nodes := [Node.new 1 (.math .add)]
  nextId := 2

theorem idsOk_addGraph : IdsOk addGraph :=
  ⟨by decide, by decide, by decide, by decide, by decide, by decide, by decide⟩

theorem addGraph_rebuild_rebuild_ids : IdsOk addGraph ∧ ∃ g₁, rebuild.run addGraph = .ok ((), g₁) ∧
    g₁.ids = [1, -2, -3] ∧ ∃ g₂, rebuild.run g₁ = .ok ((), g₂) ∧ g₂.ids = g₁.ids := by
  obtain ⟨g₁, h, hn⟩ :=
    rebuild_of_inject (rfl : injectFallbacks.run addGraph.redeclared = .ok ((), _))
  exact ⟨idsOk_addGraph, g₁, h, hn.1.trans rfl, rebuild_rebuild_ids idsOk_addGraph h⟩

end Graph

end NodeGraph
