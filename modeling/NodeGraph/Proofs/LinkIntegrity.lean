import NodeGraph.Proofs.IdAllocation

/-!
# Links name nodes of the arena

`Graph.LinksResolved` says every link reads and remembers nothing or a node of the arena. Every
arena step keeps it: a step that keeps the arena names only what was there, copies name nothing or
one another, a new default names nothing, and taking a node out clears every link naming it. So it
holds in every state reached from the empty graph by operations (`Graph.edits_keep_links_resolved`).
Loading a text does not keep it: the loader takes a record's targets as written.
-/

namespace NodeGraph

namespace Graph

/-- Every link reads nothing or a node of the arena, and remembers nothing or a node of the arena
as its last default. -/
def LinksResolved (g : Graph) : Prop := ∀ x ∈ g.refs, x = noNode ∨ x ∈ g.ids

instance : DecidablePred LinksResolved := fun g =>
  inferInstanceAs (Decidable (∀ x ∈ g.refs, x = noNode ∨ x ∈ g.ids))

namespace LinksResolved

variable {g g' : Graph}

theorem keeps (h : g.LinksResolved) (hk : Keeps g g') : g'.LinksResolved := by
  intro x hx
  rw [hk.ids]
  rcases hk.refs x hx with hx | hx | hx
  · exact .inl hx
  · exact h x hx
  · exact .inr hx

theorem addUsers (h : g.LinksResolved) {made : List Node} (hn : g'.nodes = g.nodes ++ made)
    (hrefs : ∀ n ∈ made, ∀ x ∈ n.refs, x = noNode ∨ x ∈ made.map (·.id)) : g'.LinksResolved := by
  have hids : g'.ids = g.ids ++ made.map (·.id) := by
    rw [Graph.ids, hn, List.map_append]
    rfl
  intro x hx
  rw [hids, List.mem_append]
  obtain ⟨n, hn', hxn⟩ := mem_refs.mp hx
  rw [hn, List.mem_append] at hn'
  rcases hn' with hn' | hn'
  · exact (h x (mem_refs.mpr ⟨n, hn', hxn⟩)).imp_right .inl
  · exact (hrefs n hn' x hxn).imp_right .inr

theorem addDefault (h : g.LinksResolved) {n : Node} (hn : g'.nodes = g.nodes ++ [n])
    (hrefs : ∀ x ∈ n.refs, x = noNode) : g'.LinksResolved := by
  refine h.addUsers hn fun m hm x hx => .inl (hrefs x ?_)
  rw [← List.mem_singleton.mp hm]
  exact hx

theorem remove (h : g.LinksResolved) {id : NodeId} (hn : g'.nodes = (g.detach id).nodes) :
    g'.LinksResolved := by
  have hids : g'.ids = g.ids.filter (· != id) := by
    rw [← ids_detach, Graph.ids, hn]
    rfl
  intro x hx
  have hx' : x ∈ (g.detach id).refs := by
    rw [Graph.refs, ← hn]
    exact hx
  -- what a link still names after the removal is not the node taken out
  rcases refs_detach g id hx' with hx' | ⟨hne, hx'⟩
  · exact .inl hx'
  · refine (h x hx').imp_right fun hm => ?_
    rw [hids]
    exact List.mem_filter.mpr ⟨hm, by simpa using hne⟩

theorem step (h : g.LinksResolved) (hs : ArenaStep g g') : g'.LinksResolved := by
  cases hs with
  | keeps hk => exact h.keeps hk
  | addUsers made hn _ _ _ _ hrefs => exact h.addUsers hn hrefs
  | addDefault n hn _ _ _ _ hrefs => exact h.addDefault hn hrefs
  | remove id hn _ _ => exact h.remove hn

theorem arenaRun (h : g.LinksResolved) (hr : ArenaRun g g') : g'.LinksResolved := by
  induction hr with
  | refl => exact h
  | tail _ hs ih => exact ih.step hs

end LinksResolved

theorem linksResolved_empty : LinksResolved ({} : Graph) := fun _ hx => by cases hx

/-- Both invariants along any run of operations from the empty graph; duplicating keeps links
resolved only when the ids lie below the counter. -/
theorem edits_keep_invariants {g : Graph} (h : Relation.ReflTransGen Edit {} g) :
    IdsOk g ∧ g.LinksResolved := by
  induction h with
  | refl => exact ⟨idsOk_empty, linksResolved_empty⟩
  | tail _ he ih => exact ⟨ih.1.edit he, ih.2.arenaRun (he.arenaRun ih.1.below)⟩

/-- In every state reached from the empty graph by operations, every link reads nothing or a node
of the arena and remembers nothing or a node of the arena as its last default; removing a node
from such a state keeps this, and no node of the arena has the removed id any more. -/
theorem edits_keep_links_resolved {g : Graph} (h : Relation.ReflTransGen Edit {} g) :
    g.LinksResolved ∧ ∀ (id : NodeId) (g' : Graph) (n : Node), g.removeNode id = .ok (g', n) →
      g'.LinksResolved ∧ id ∉ g'.ids := by
  have hlinks := (edits_keep_invariants h).2
  refine ⟨hlinks, fun id g' n hr => ⟨hlinks.step (arenaStep_removeNode hr), fun hm => ?_⟩⟩
  rw [removeNode_eq_detach hr, ids_detach] at hm
  simp at hm

/-- In the wired pair node 2 reads node 1; removing node 1 clears that link. -/
theorem wiredPair_links_resolved :
    Relation.ReflTransGen Edit {} wiredPair ∧ 1 ∈ wiredPair.refs ∧ wiredPair.LinksResolved ∧
      ∃ g' n, wiredPair.removeNode 1 = .ok (g', n) ∧ g'.LinksResolved ∧ 1 ∉ g'.ids ∧
        g'.refs = [noNode, noNode] := by
  obtain ⟨hres, hremove⟩ := edits_keep_links_resolved edits_wiredPair
  have hr : wiredPair.removeNode 1 = .ok (wiredPair.detach 1, Node.new 1 (.random .value01)) := rfl
  obtain ⟨hres', hgone⟩ := hremove 1 _ _ hr
  exact ⟨edits_wiredPair, by decide, hres, _, _, hr, hres', hgone, by decide⟩

/-- Loading `math|1|0 0|5|13` gives node 1 a link to node 5, which the text does not hold. -/
theorem ofText_keeps_dangling_link :
    ((ofText "math|1|0 0|5|13").toOption.bind (·.toOption)).map
        (fun g => (g.ids, g.refs, decide g.LinksResolved)) =
      some ([1], [5, noNode], false) := by
  decide +kernel

end Graph

end NodeGraph
