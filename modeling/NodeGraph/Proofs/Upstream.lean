import NodeGraph.Proofs.TypePasses

/-!
# Sinks and what lies upstream

A graph's sinks are the nodes no link reads, in arena order; a node wired to itself is never one.
The walk `Graph.feedersOf` pops ids off a stack up to the first node not seen yet and pushes its
targets. It keeps the invariant `Graph.Walk`, and the nodes not yet seen are a rank every step
lowers, so it finds exactly the nodes a chain of links leads up to from a root, each once
(`Graph.sinks_and_upstream_exact`).
-/

namespace NodeGraph

namespace Graph

theorem findSinks_eq_filter (g : Graph) :
    g.findSinks = g.ids.filter fun x => ∀ n ∈ g.nodes, ∀ l ∈ n.inputs, l.target ≠ x := by
  show g.ids.filter (fun x => decide (x ∉ g.nodes.flatMap Node.targets)) = _
  congr 1
  funext x
  simp [Node.targets]

theorem not_mem_findSinks_of_self_link {g : Graph} {n : Node} (hn : n ∈ g.nodes) {l : Link}
    (hl : l ∈ n.inputs) (hself : l.target = n.id) : n.id ∉ g.findSinks := by
  rw [findSinks_eq_filter, List.mem_filter]
  rintro ⟨-, hsink⟩
  exact of_decide_eq_true hsink n hn l hl hself

/-- The nodes of the graph not in `seen`, counted with the arena's repeats: the rank of the walk. -/
def unseen (g : Graph) (seen : List NodeId) : Nat := (g.ids.filter (· ∉ seen)).length

theorem unseen_le {g : Graph} {seen seen' : List NodeId} (hsub : ∀ y ∈ seen, y ∈ seen') :
    g.unseen seen' ≤ g.unseen seen := by
  unfold unseen
  rw [← List.countP_eq_length_filter, ← List.countP_eq_length_filter]
  refine List.countP_mono_left fun y _ hy => ?_
  simp only [decide_eq_true_eq] at hy ⊢
  exact fun h => hy (hsub y h)

theorem length_filter_lt_of_imp {α : Type} {l : List α} {p q : α → Bool}
    (hqp : ∀ a ∈ l, q a = true → p a = true) {x : α} (hx : x ∈ l) (hp : p x = true)
    (hq : q x = false) : (l.filter q).length < (l.filter p).length := by
  have hsplit : l.filter q = (l.filter p).filter q := by
    rw [List.filter_filter]
    refine List.filter_congr fun a ha => ?_
    cases h : q a
    · rfl
    · simp [hqp a ha h]
  rw [hsplit]
  exact List.length_filter_lt_length_iff_exists.mpr ⟨x, List.mem_filter.mpr ⟨hx, hp⟩, by simp [hq]⟩

theorem unseen_lt {g : Graph} {seen seen' : List NodeId} (hsub : ∀ y ∈ seen, y ∈ seen')
    {x : NodeId} (hx : x ∈ g.ids) (hs : x ∉ seen) (hx' : x ∈ seen') :
    g.unseen seen' < g.unseen seen :=
  length_filter_lt_of_imp (fun y _ hy => by
      simp only [decide_eq_true_eq] at hy ⊢
      exact fun h => hy (hsub y h))
    hx (by simpa using hs) (by simpa using hx')

theorem unseen_snoc_lt {g : Graph} {seen : List NodeId} {x : NodeId} (hx : x ∈ g.ids)
    (hs : x ∉ seen) : g.unseen (seen ++ [x]) < g.unseen seen :=
  unseen_lt (fun _ hy => List.mem_append_left _ hy) hx hs (by simp)

section Walk

variable {g : Graph} {roots seen stack rest : List NodeId} {x : NodeId} {n : Node}

theorem next_eq_none : feedersOf.next g seen stack = none ↔ ∀ y ∈ stack, y ∈ g.ids → y ∈ seen := by
  induction stack with
  | nil => simp [feedersOf.next]
  | cons y stack ih =>
    rw [feedersOf.next]
    cases hy : g.node? y with
    | none =>
      have hy' : y ∉ g.ids := node?_eq_none.mp hy
      simp only [ih, List.mem_cons, forall_eq_or_imp]
      exact ⟨fun h => ⟨fun h' => absurd h' hy', h⟩, fun h => h.2⟩
    | some m =>
      have hy' : y ∈ g.ids := mem_ids_of_node? hy
      by_cases hs : y ∈ seen
      · simp only [if_pos hs, ih, List.mem_cons, forall_eq_or_imp]
        exact ⟨fun h => ⟨fun _ => hs, h⟩, fun h => h.2⟩
      · simp only [if_neg hs, reduceCtorEq, false_iff, List.mem_cons, forall_eq_or_imp, not_and]
        exact fun h => absurd (h hy') hs

/-- Popping ids finds a node of the graph not seen, from the stack; every node of the graph on
the old stack is seen, that node, or still on the rest. -/
theorem next_eq_some (h : feedersOf.next g seen stack = some (x, n, rest)) :
    g.node? x = some n ∧ x ∉ seen ∧ x ∈ stack ∧ (∀ y ∈ rest, y ∈ stack) ∧
      ∀ y ∈ stack, y ∈ g.ids → y ∈ seen ∨ y = x ∨ y ∈ rest := by
  induction stack with
  | nil => simp [feedersOf.next] at h
  | cons y stack ih =>
    rw [feedersOf.next] at h
    -- an id skipped is missing or seen; the id taken leaves the rest of the stack as it is
    have hskip : feedersOf.next g seen stack = some (x, n, rest) → (y ∈ g.ids → y ∈ seen) →
        g.node? x = some n ∧ x ∉ seen ∧ x ∈ y :: stack ∧ (∀ z ∈ rest, z ∈ y :: stack) ∧
          ∀ z ∈ y :: stack, z ∈ g.ids → z ∈ seen ∨ z = x ∨ z ∈ rest := by
      intro h hy
      obtain ⟨hx, hxs, hmem, hsub, hcov⟩ := ih h
      refine ⟨hx, hxs, List.mem_cons_of_mem _ hmem, fun z hz => List.mem_cons_of_mem _ (hsub z hz),
        fun z hz hzg => ?_⟩
      rcases List.mem_cons.mp hz with rfl | hz
      · exact .inl (hy hzg)
      · exact hcov z hz hzg
    cases hy : g.node? y with
    | none =>
      rw [hy] at h
      exact hskip h fun hyg => absurd hyg (node?_eq_none.mp hy)
    | some m =>
      rw [hy] at h
      dsimp only at h
      by_cases hs : y ∈ seen
      · rw [if_pos hs] at h
        exact hskip h fun _ => hs
      · rw [if_neg hs] at h
        cases h
        refine ⟨hy, hs, List.mem_cons_self .., fun z hz => List.mem_cons_of_mem _ hz,
          fun z hz _ => ?_⟩
        rcases List.mem_cons.mp hz with rfl | hz
        · exact .inr (.inl rfl)
        · exact .inr (.inr hz)

/-- What the walk keeps: the nodes seen are distinct nodes of the graph upstream of a root, the
nodes of the graph on the stack are upstream of a root, and every root and every target of a node
seen that is a node of the graph is seen or still on the stack. -/
structure Walk (g : Graph) (roots stack seen : List NodeId) : Prop where
  nodup : seen.Nodup
  seen_upstream : ∀ y ∈ seen, y ∈ g.ids ∧ g.Under roots y
  stack_upstream : ∀ y ∈ stack, y ∈ g.ids → g.Under roots y
  roots_covered : ∀ r ∈ roots, r ∈ g.ids → r ∈ seen ∨ r ∈ stack
  targets_covered : ∀ y ∈ seen, ∀ m, g.node? y = some m → ∀ t ∈ m.targets, t ∈ g.ids →
    t ∈ seen ∨ t ∈ stack

theorem Walk.start (g : Graph) (roots : List NodeId) : g.Walk roots roots.reverse [] where
  nodup := List.nodup_nil
  seen_upstream := by simp
  stack_upstream := fun y hy _ => ⟨y, List.mem_reverse.mp hy, Below.refl g y⟩
  roots_covered := fun r hr _ => .inr (List.mem_reverse.mpr hr)
  targets_covered := by simp

theorem covered_step (h : feedersOf.next g seen stack = some (x, n, rest)) {y : NodeId}
    (hy : y ∈ g.ids) (hc : y ∈ seen ∨ y ∈ stack) :
    y ∈ seen ++ [x] ∨ y ∈ n.targets.reverse ++ rest := by
  obtain ⟨-, -, -, -, hcov⟩ := next_eq_some h
  rcases hc with hc | hc
  · exact .inl (List.mem_append_left _ hc)
  · rcases hcov y hc hy with hs | rfl | hr
    · exact .inl (List.mem_append_left _ hs)
    · exact .inl (List.mem_append_right _ (List.mem_singleton_self _))
    · exact .inr (List.mem_append_right _ hr)

/-- One step of the walk keeps its invariant: the node taken is upstream of a root, and so are
its targets, which go on the stack. -/
theorem Walk.step (hw : g.Walk roots stack seen)
    (h : feedersOf.next g seen stack = some (x, n, rest)) :
    g.Walk roots (n.targets.reverse ++ rest) (seen ++ [x]) := by
  obtain ⟨hx, hxs, hxst, hsub, -⟩ := next_eq_some h
  have hxg : x ∈ g.ids := mem_ids_of_node? hx
  have hxu : g.Under roots x := hw.stack_upstream x hxst hxg
  refine ⟨?_, ?_, ?_, fun r hr hrg => covered_step h hrg (hw.roots_covered r hr hrg), ?_⟩
  · exact List.nodup_append.mpr ⟨hw.nodup, List.nodup_singleton x,
      fun a ha b hb hab => hxs (by simp_all)⟩
  · intro y hy
    rcases List.mem_append.mp hy with hy | hy
    · exact hw.seen_upstream y hy
    · rw [List.mem_singleton.mp hy]
      exact ⟨hxg, hxu⟩
  · intro y hy hyg
    rcases List.mem_append.mp hy with hy | hy
    · -- a target of the node taken reads up into it
      obtain ⟨r, hr, hxr⟩ := hxu
      exact ⟨r, hr, Relation.ReflTransGen.head ⟨hyg, n, hx, List.mem_reverse.mp hy⟩ hxr⟩
    · exact hw.stack_upstream y (hsub y hy) hyg
  · intro y hy m hm t ht htg
    rcases List.mem_append.mp hy with hy | hy
    · exact covered_step h htg (hw.targets_covered y hy m hm t ht htg)
    · rw [List.mem_singleton.mp hy, hx] at hm
      cases hm
      exact .inr (List.mem_append_left _ (List.mem_reverse.mpr ht))

/-- When popping finds nothing, the nodes seen are everything upstream of a root: they hold every
root of the graph and every node of the graph a seen node reads. -/
theorem Walk.seen_iff (hw : g.Walk roots stack seen) (h : feedersOf.next g seen stack = none)
    (y : NodeId) : y ∈ seen ↔ y ∈ g.ids ∧ g.Under roots y := by
  have hdone := next_eq_none.mp h
  refine ⟨hw.seen_upstream y, ?_⟩
  rintro ⟨hyg, r, hr, hyr⟩
  have hrs : r ∈ seen := by
    rcases hw.roots_covered r hr (hyr.mem_right hyg) with hs | hs
    · exact hs
    · exact hdone r hs (hyr.mem_right hyg)
  -- go down the chain of links from the root: every node a seen node reads is seen
  have hclosed : ∀ a, g.Below a r → a ∈ seen := by
    intro a har
    induction har using Relation.ReflTransGen.head_induction_on with
    | refl => exact hrs
    | head hac _ ih =>
      obtain ⟨hag, m, hm, hat⟩ := hac
      rcases hw.targets_covered _ ih m hm _ hat hag with hs | hs
      · exact hs
      · exact hdone _ hs hag
  exact hclosed y hyr

/-- The walk from a state that keeps the invariant, with more steps than nodes not yet seen,
gives exactly the nodes upstream of a root, each once. -/
theorem Walk.go (hw : g.Walk roots stack seen) {fuel : Nat} (hf : g.unseen seen < fuel) :
    (∀ y, y ∈ feedersOf.go g fuel stack seen ↔ y ∈ g.ids ∧ g.Under roots y) ∧
      (feedersOf.go g fuel stack seen).Nodup := by
  induction fuel generalizing stack seen with
  | zero => omega
  | succ fuel ih =>
    rw [feedersOf.go]
    cases h : feedersOf.next g seen stack with
    | none => exact ⟨hw.seen_iff h, hw.nodup⟩
    | some p =>
      obtain ⟨x, n, rest⟩ := p
      obtain ⟨hx, hxs, -⟩ := next_eq_some h
      have hlt := unseen_snoc_lt (mem_ids_of_node? hx) hxs
      exact ih (hw.step h) (by omega)

theorem mem_feedersOf (g : Graph) (roots : List NodeId) (y : NodeId) :
    y ∈ g.feedersOf roots ↔ y ∈ g.ids ∧ g.Under roots y := by
  have hf : g.unseen [] < g.nodes.length + 1 := by
    simp [unseen, ids]
  exact ((Walk.start g roots).go hf).1 y

theorem nodup_feedersOf (g : Graph) (roots : List NodeId) : (g.feedersOf roots).Nodup := by
  have hf : g.unseen [] < g.nodes.length + 1 := by
    simp [unseen, ids]
  exact ((Walk.start g roots).go hf).2

/-- Sink discovery and the upstream walk are exact. The sinks are, in arena order, the nodes that
no link of any node reads. The walk from some roots gives, each once, exactly the nodes of the graph
that a chain of links leads up to from a root of the graph; other roots add nothing. -/
theorem sinks_and_upstream_exact (g : Graph) (roots : List NodeId) :
    g.findSinks = g.ids.filter (fun x => ∀ n ∈ g.nodes, ∀ l ∈ n.inputs, l.target ≠ x) ∧
      (∀ y, y ∈ g.feedersOf roots ↔ y ∈ g.ids ∧ ∃ r ∈ roots, r ∈ g.ids ∧ g.Below y r) ∧
      (g.feedersOf roots).Nodup := by
  refine ⟨findSinks_eq_filter g, fun y => ?_, nodup_feedersOf g roots⟩
  rw [mem_feedersOf]
  constructor
  · rintro ⟨hy, r, hr, hyr⟩
    exact ⟨hy, r, hr, hyr.mem_right hy, hyr⟩
  · rintro ⟨hy, r, hr, -, hyr⟩
    exact ⟨hy, r, hr, hyr⟩

/-- Node 1 reads itself and node 2 reads node 1: node 2 is the one sink, and the walk from node 2
and a missing node 7 meets the loop once. -/
example :
    let g : Graph := { nodes := [{ Node.new 1 (.math .abs) with inputs := [{ target := 1 }] },
                                 { Node.new 2 (.math .abs) with inputs := [{ target := 1 }] }] }
    g.findSinks = [2] ∧ g.feedersOf [2, 7] = [2, 1] := by
  decide

theorem feedersOf_go_congr {fuel fuel' : Nat} (hf : g.unseen seen < fuel)
    (hf' : g.unseen seen < fuel') :
    feedersOf.go g fuel stack seen = feedersOf.go g fuel' stack seen := by
  induction fuel generalizing fuel' stack seen with
  | zero => omega
  | succ fuel ih =>
    obtain ⟨fuel', rfl⟩ : ∃ k, fuel' = k + 1 := ⟨fuel' - 1, by omega⟩
    rw [feedersOf.go, feedersOf.go]
    cases h : feedersOf.next g seen stack with
    | none => rfl
    | some p =>
      -- each step sees a node of the graph not seen before, which lowers the rank
      obtain ⟨x, n, rest⟩ := p
      obtain ⟨hx, hxs, -⟩ := next_eq_some h
      have hlt := unseen_snoc_lt (mem_ids_of_node? hx) hxs
      exact ih (by omega) (by omega)

theorem feedersOf_go_rank (stack seen : List NodeId) (extra : Nat) :
    feedersOf.go g (g.unseen seen + 1 + extra) stack seen =
      feedersOf.go g (g.unseen seen + 1) stack seen :=
  feedersOf_go_congr (by omega) (by omega)

end Walk

end Graph

end NodeGraph
