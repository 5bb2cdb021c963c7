import NodeGraph.Proofs.HostDeclarations

/-!
# What preparing a graph keeps

Preparing a graph (`Graph.prepare`) rebuilds it or compiles its outputs. Either way every node keeps
its id and kind, in arena order, and only defaults are added (`Graph.addsDefaults_prepare`), so no
node's wiring to its host changes (`Graph.AddsDefaults.wiredAs`). A node taken out of the arena
stays out (`Graph.Gone`): no arena step brings it back (`Graph.Gone.arenaRun`).
-/

namespace NodeGraph

namespace Graph

theorem Kind.eq_fallback_of_isDefault {k : Kind} (h : k.isDefault = true) :
    ∃ c, k = .fallback c := by
  cases k with
  | fallback c => exact ⟨c, rfl⟩
  | _ => simp [Kind.isDefault] at h

/-! ### Kinds -/

/-- The nodes of a graph by id and kind, in arena order. -/
def kinds (g : Graph) : List (NodeId × Kind) := g.nodes.map fun n => (n.id, n.kind)

theorem ids_eq_kinds (g : Graph) : g.ids = g.kinds.map Prod.fst := by
  simp [ids, kinds]

theorem kind_node? (g : Graph) (x : NodeId) :
    (g.node? x).map Node.kind = (g.kinds.find? (·.1 == x)).map Prod.snd := by
  unfold node? kinds
  rw [List.find?_map, Option.map_map]
  rfl

theorem kinds_updateNode {g : Graph} {id : NodeId} {f : Node → Node}
    (hf : ∀ n, (f n).id = n.id ∧ (f n).kind = n.kind) : (g.updateNode id f).kinds = g.kinds := by
  unfold updateNode kinds
  rw [List.map_map]
  refine List.map_congr_left fun n _ => ?_
  simp only [Function.comp_apply]
  split <;> simp [hf]

theorem kinds_redeclared (g : Graph) : g.redeclared.kinds = g.kinds := by
  simp only [kinds, redeclared, List.map_map]
  rfl

theorem kinds_setLink (g : Graph) (id : NodeId) (i : Nat) (f : Link → Link) :
    (g.setLink id i f).kinds = g.kinds :=
  kinds_updateNode fun _ => ⟨rfl, rfl⟩

theorem kinds_eq_map_ids {g : Graph} (hnd : g.ids.Nodup) :
    g.kinds = g.ids.map fun x => (x, ((g.node? x).map Node.kind).getD default) := by
  unfold kinds
  rw [ids, List.map_map]
  refine List.map_congr_left fun n hn => ?_
  simp [node?_of_mem hnd hn]

/-- Narrowing keeps the kinds. -/
theorem Narrows.kinds {g g' : Graph} (h : g.Narrows g') (hnd : g.ids.Nodup) :
    g'.kinds = g.kinds := by
  rw [kinds_eq_map_ids hnd, kinds_eq_map_ids (h.1 ▸ hnd), h.1]
  refine List.map_congr_left fun x hx => ?_
  obtain ⟨n', hn'⟩ := Option.ne_none_iff_exists'.mp fun hc => node?_eq_none.mp hc (h.1 ▸ hx)
  obtain ⟨n, hn, hk, -⟩ := h.2 x n' hn'
  rw [hn', hn]
  simp [hk]

theorem wiredAs_eq_kind (g : Graph) (x : NodeId) :
    g.wiredAs x = ((g.node? x).map Node.kind).bind Kind.wiring? := by
  unfold wiredAs
  cases g.node? x <;> rfl

/-! ### Adding default nodes -/

/-- `g'` has the nodes of `g` with their ids and kinds, in order, followed by default nodes. -/
def AddsDefaults (g g' : Graph) : Prop :=
  ∃ ms : List (NodeId × Kind), g'.kinds = g.kinds ++ ms ∧ ∀ p ∈ ms, p.2.isDefault = true

namespace AddsDefaults

variable {g₁ g₂ g₃ : Graph}

theorem refl (g : Graph) : AddsDefaults g g := ⟨[], (List.append_nil _).symm, by simp⟩

theorem of_kinds (h : g₂.kinds = g₁.kinds) : AddsDefaults g₁ g₂ :=
  ⟨[], by rw [h, List.append_nil], by simp⟩

theorem trans (h₁ : AddsDefaults g₁ g₂) (h₂ : AddsDefaults g₂ g₃) : AddsDefaults g₁ g₃ := by
  obtain ⟨ms₁, hk₁, hd₁⟩ := h₁
  obtain ⟨ms₂, hk₂, hd₂⟩ := h₂
  refine ⟨ms₁ ++ ms₂, by rw [hk₂, hk₁, List.append_assoc], fun p hp => ?_⟩
  rcases List.mem_append.mp hp with hp | hp
  exacts [hd₁ p hp, hd₂ p hp]

theorem ids (h : AddsDefaults g₁ g₂) : ∃ made, g₂.ids = g₁.ids ++ made := by
  obtain ⟨ms, hk, -⟩ := h
  exact ⟨ms.map Prod.fst, by rw [ids_eq_kinds, hk, List.map_append, ← ids_eq_kinds]⟩

theorem kind_node? (h : AddsDefaults g₁ g₂) (x : NodeId) : ∃ o : Option Kind,
    (g₂.node? x).map Node.kind = ((g₁.node? x).map Node.kind).or o ∧
      ∀ k ∈ o, k.isDefault = true := by
  obtain ⟨ms, hk, hd⟩ := h
  refine ⟨(ms.find? (·.1 == x)).map Prod.snd, ?_, fun k hko => ?_⟩
  · rw [Graph.kind_node?, hk, List.find?_append, Graph.kind_node?]
    cases g₁.kinds.find? (·.1 == x) <;> rfl
  · obtain ⟨p, hp, rfl⟩ := Option.map_eq_some_iff.mp hko
    exact hd p (List.mem_of_find?_eq_some hp)

/-- A node an id finds after adding defaults has the kind it had, or is a default node. -/
theorem node?_cases (h : AddsDefaults g₁ g₂) {x : NodeId} {n' : Node}
    (hn' : g₂.node? x = some n') :
    (∃ n, g₁.node? x = some n ∧ n'.kind = n.kind) ∨ n'.kind.isDefault = true := by
  obtain ⟨o, hx, hd⟩ := h.kind_node? x
  rw [hn', Option.map_some] at hx
  cases hn : g₁.node? x with
  | some n =>
    rw [hn, Option.map_some, Option.some_or, Option.some_inj] at hx
    exact .inl ⟨n, rfl, hx⟩
  | none =>
    rw [hn, Option.map_none, Option.none_or] at hx
    exact .inr (hd _ hx.symm)

/-- Adding defaults wires no node and unwires none. -/
theorem wiredAs (h : AddsDefaults g₁ g₂) (x : NodeId) : g₂.wiredAs x = g₁.wiredAs x := by
  obtain ⟨o, hx, hd⟩ := h.kind_node? x
  rw [wiredAs_eq_kind, wiredAs_eq_kind, hx]
  cases g₁.node? x with
  | some n => rfl
  | none =>
    cases o with
    | none => rfl
    | some k =>
      obtain ⟨c, rfl⟩ := Kind.eq_fallback_of_isDefault (hd k rfl)
      rfl

end AddsDefaults

/-! ### Preparing adds only defaults -/

theorem addsDefaults_fillInput {g g' : Graph} {id : NodeId} {index : Nat} {u : Unit}
    (hok : IdsOk g) (h : (fillInput id index).run g = .ok (u, g')) : AddsDefaults g g' := by
  rcases run_fillInput hok h with ⟨rfl, -⟩ | ⟨n, l, -, -, g₁, ms, t, hms, hnew, -, rfl⟩
  · exact .refl _
  · refine ⟨ms.map fun m => (m.id, m.kind), ?_, fun p hp => ?_⟩
    · rw [kinds_setLink, kinds, hms, List.map_append]
      rfl
    · obtain ⟨m, hm, rfl⟩ := List.mem_map.mp hp
      exact (hnew m hm).2.2.2

/-- Injecting defaults keeps every relation that injecting one default keeps. -/
theorem rel_injectFallbacks (Q : Graph → Graph → Prop) (hrefl : ∀ g, Q g g)
    (htrans : ∀ {g₁ g₂ g₃}, Q g₁ g₂ → Q g₂ g₃ → Q g₁ g₃)
    (hfill : ∀ g g' id index, IdsOk g → (fillInput id index).run g = .ok ((), g') → Q g g')
    {g g' : Graph} (hok : IdsOk g) (h : injectFallbacks.run g = .ok ((), g')) : Q g g' := by
  unfold injectFallbacks at h
  rw [run_bind_of_ok (run_get g)] at h
  -- both loops keep the relation to the start and the ids to the counters
  refine (forIn_inv_pure _ (fun _ g' => Q g g' ∧ IdsOk g') _ (fun _ id _ g₁ r g₂ _ hI h₁ => ?_)
    ⟨hrefl g, hok⟩ h).2.1
  obtain ⟨_, _, hget, h₁⟩ := run_bind_eq_ok h₁
  cases hget
  obtain ⟨u, g₃, hloop, hend⟩ := run_bind_eq_ok h₁
  cases hend
  refine ⟨rfl, forIn_inv _ (fun _ g' => Q g g' ∧ IdsOk g')
    (fun index _ => do
      fillInput id index
      pure (ForInStep.yield PUnit.unit))
    (fun _ index _ g₄ r g₅ _ hI₄ h₄ => ?_) _ [] g₁ _ u rfl hI hloop⟩
  obtain ⟨u, g₆, hrun, hend⟩ := run_bind_eq_ok h₄
  cases hend
  exact ⟨rfl, htrans hI₄.1 (hfill _ _ _ _ hI₄.2 hrun),
    hI₄.2.arenaRun (moves_fillInput id index g₄ u _ hrun)⟩

theorem addsDefaults_injectFallbacks {g g' : Graph} (hok : IdsOk g)
    (h : injectFallbacks.run g = .ok ((), g')) : AddsDefaults g g' :=
  rel_injectFallbacks AddsDefaults AddsDefaults.refl AddsDefaults.trans
    (fun _ _ _ _ hok h => addsDefaults_fillInput hok h) hok h

theorem addsDefaults_rebuild {g g' : Graph} (hok : IdsOk g) (h : rebuild.run g = .ok ((), g')) :
    AddsDefaults g g' := by
  obtain ⟨gi, hi⟩ := inject_of_rebuild h
  obtain ⟨g₁, hrun, hn⟩ := rebuild_of_inject hi
  rw [hrun] at h
  cases h
  have hoki : IdsOk gi := hok.redeclared.arenaRun (moves_injectFallbacks _ _ _ hi)
  exact (AddsDefaults.of_kinds (kinds_redeclared g)).trans
    ((addsDefaults_injectFallbacks hok.redeclared hi).trans (.of_kinds (hn.kinds hoki.nodup)))

/-- Preparing rebuilds a graph marked for a rebuild and compiles the outputs of any other. -/
theorem prepare_cases {g g' : Graph} (h : prepare.run g = .ok ((), g')) :
    (g.dirty = true ∧ rebuild.run g = .ok ((), g')) ∨
      (g.dirty = false ∧ g' = g.compileOutputs) := by
  unfold prepare at h
  rw [run_bind_of_ok (run_get g)] at h
  split at h
  · exact .inl ⟨‹_›, h⟩
  · rename_i hd
    cases h
    exact .inr ⟨Bool.eq_false_iff.mpr hd, rfl⟩

/-- A rebuild of a graph whose declared inputs are served succeeds and creates no node. -/
theorem rebuild_of_served {g : Graph} (hS : g.Served) :
    ∃ g', rebuild.run g = .ok ((), g') ∧ g'.ids = g.ids := by
  obtain ⟨gi, hi, hids⟩ := injectFallbacks_of_served hS.redeclared
  obtain ⟨g', hrun, hn⟩ := rebuild_of_inject hi
  exact ⟨g', hrun, hn.1.trans (hids.trans (ids_redeclared g))⟩

/-- Preparing a graph whose declared inputs are served, or that is not marked for a rebuild,
succeeds and creates no node. -/
theorem prepare_of_served {g : Graph} (hS : g.dirty = true → g.Served) :
    ∃ g', prepare.run g = .ok ((), g') ∧ g'.ids = g.ids := by
  unfold prepare
  rw [run_bind_of_ok (run_get g)]
  by_cases hd : g.dirty = true
  · rw [if_pos hd]
    exact rebuild_of_served (hS hd)
  · rw [if_neg hd]
    exact ⟨_, rfl, (narrows_compileOutputs g).1⟩

/-- Preparing keeps every node with its kind, in order, and adds only default nodes. -/
theorem addsDefaults_prepare {g g' : Graph} (hok : IdsOk g) (h : prepare.run g = .ok ((), g')) :
    AddsDefaults g g' := by
  unfold prepare at h
  rw [run_bind_of_ok (run_get g)] at h
  split at h
  · exact addsDefaults_rebuild hok h
  · cases h
    exact .of_kinds ((narrows_compileOutputs g).kinds hok.nodup)

theorem dirty_compileOutputs (g : Graph) : g.compileOutputs.dirty = g.dirty := by
  have hl := rel_lightPass (fun a b : Graph => b.dirty = a.dirty) (fun _ => rfl)
    (fun h₁ h₂ => h₂.trans h₁) (fun g id ts => by rw [resolveAt_eq]; split <;> rfl) g.outputs [] g
  unfold compileOutputs
  generalize g.lightPass g.outputs [] = p at hl ⊢
  obtain ⟨_, _, g₁⟩ := p
  exact hl

/-! ### Nodes taken out -/

/-- Node `x` is out of the arena: no node has its id, no link names it but as nothing, and both
counters are past it, so no node added later takes it. -/
structure Gone (g : Graph) (x : NodeId) : Prop where
  not_mem : x ∉ g.ids
  refs : x ∈ g.refs → x = noNode
  above : g.nextFallbackId < x
  below : x < g.nextId

theorem gone_detach {g : Graph} {x : NodeId} (hok : IdsOk g) (hx : x ∈ g.ids) :
    Gone (g.detach x) x := by
  refine ⟨by simp [ids_detach], fun hr => ?_, hok.above x hx, hok.below x hx⟩
  rcases refs_detach g x hr with hr | ⟨hne, -⟩
  · exact hr
  · exact absurd rfl hne

/-- No arena step brings a node that is gone back. -/
theorem Gone.step {g g' : Graph} {x : NodeId} (h : Gone g x) (hs : ArenaStep g g') : Gone g' x := by
  cases hs with
  | keeps hk =>
    refine ⟨hk.ids ▸ h.not_mem, fun hx => ?_, hk.nextFallbackId ▸ h.above, hk.nextId ▸ h.below⟩
    rcases hk.refs x hx with hx | hx | hx
    · exact hx
    · exact h.refs hx
    · exact absurd hx h.not_mem
  | addUsers made hn hids hi _ hf hrefs =>
    -- the nodes added take ids from the user counter on, above `x`
    have hmade : x ∉ made.map (·.id) := by
      rw [hids]
      intro hx
      obtain ⟨k, -, hk⟩ := List.mem_map.mp hx
      have h₁ := h.below
      simp only [NodeId] at h₁ hk
      omega
    refine ⟨?_, fun hx => ?_, hf ▸ h.above, ?_⟩
    · rw [ids, hn, List.map_append, List.mem_append, not_or]
      exact ⟨h.not_mem, hmade⟩
    · obtain ⟨n, hn', hxn⟩ := mem_refs.mp hx
      rw [hn, List.mem_append] at hn'
      rcases hn' with hn' | hn'
      · exact h.refs (mem_refs.mpr ⟨n, hn', hxn⟩)
      · exact (hrefs n hn' x hxn).resolve_right hmade
    · rw [hi]
      have h₁ := h.below
      simp only [NodeId] at h₁ ⊢
      omega
  | addDefault n hn hid hf _ hi hrefs =>
    -- the default added takes the default counter, below `x`
    have hne : x ≠ n.id := by
      have h₁ := h.above
      simp only [NodeId] at h₁ hid ⊢
      omega
    refine ⟨?_, fun hx => ?_, ?_, hi ▸ h.below⟩
    · rw [ids, hn, List.map_append, List.mem_append, not_or]
      exact ⟨h.not_mem, by simpa using hne⟩
    · obtain ⟨m, hm, hxm⟩ := mem_refs.mp hx
      rw [hn, List.mem_append, List.mem_singleton] at hm
      rcases hm with hm | rfl
      · exact h.refs (mem_refs.mpr ⟨m, hm, hxm⟩)
      · exact hrefs x hxm
    · rw [hf]
      have h₁ := h.above
      omega
  | remove id hn hi hf =>
    have hids : g'.ids = g.ids.filter (· != id) := by
      rw [← ids_detach, ids, hn]
      rfl
    refine ⟨fun hx => h.not_mem ?_, fun hx => ?_, hf ▸ h.above, hi ▸ h.below⟩
    · rw [hids] at hx
      exact (List.mem_filter.mp hx).1
    · have hx' : x ∈ (g.detach id).refs := by
        rw [Graph.refs, ← hn]
        exact hx
      rcases refs_detach g id hx' with hx' | ⟨-, hx'⟩
      · exact hx'
      · exact h.refs hx'

theorem Gone.arenaRun {g g' : Graph} {x : NodeId} (h : Gone g x) (hr : ArenaRun g g') :
    Gone g' x := by
  induction hr with
  | refl => exact h
  | tail _ hs ih => exact ih.step hs

end Graph

end NodeGraph
