import NodeGraph.Proofs.Upstream
import NodeGraph.Proofs.Compilation

/-!
# Every graph pass ends within its rank

The type passes, the compilation pass and the upstream walk recurse with a fuel argument that is
bookkeeping, not a bound: each pass has a rank that every nested call lowers, any two fuels above
the rank give the same answer, and the fuel each caller passes is above it. The full pass's rank is
the number of nodes off its path (`Graph.updateTypes_congr`), the light pass's the nodes not yet
resolved (`Graph.LightGrows`), the compilation pass's the nodes without a record
(`Compiler.Recorded`), and the walk sees each node once (`Graph.feedersOf_go_congr`). So no answer
comes from running out of fuel, self-loops and cycles included.
-/

namespace NodeGraph

theorem mapM_run_congr {σ α β : Type} (I : σ → Prop) {f f' : α → StateM σ β}
    (hf : ∀ a s, I s → (f a).run s = (f' a).run s) (hI : ∀ a s, I s → I ((f a).run s).2) :
    ∀ (xs : List α) (s : σ), I s → (xs.mapM f).run s = (xs.mapM f').run s
  | [], _, _ => rfl
  | x :: xs, s, hs => by
    rw [Graph.run_mapM_cons, Graph.run_mapM_cons, ← hf x s hs,
      mapM_run_congr I hf hI xs _ (hI x s hs)]

namespace Graph

theorem unseen_of_ids {g g' : Graph} (h : g'.ids = g.ids) (seen : List NodeId) :
    g'.unseen seen = g.unseen seen := by
  simp only [unseen, h]

theorem unseen_nil (g : Graph) : g.unseen [] = g.nodes.length := by
  simp [unseen, ids]

section FullPass

/-- The full pass from a node gives the same answer for any two fuels above the number of nodes of
the graph off its path. -/
theorem updateTypes_congr {fuel fuel' : Nat} {id : NodeId} {path : List NodeId} {g : Graph}
    (hf : g.unseen path < fuel) (hf' : g.unseen path < fuel') :
    updateTypes fuel id path g = updateTypes fuel' id path g := by
  induction fuel generalizing fuel' id path g with
  | zero => omega
  | succ fuel ih =>
    obtain ⟨fuel', rfl⟩ : ∃ k, fuel' = k + 1 := ⟨fuel' - 1, by omega⟩
    rw [updateTypes, updateTypes]
    cases hn : g.node? id with
    | none => rfl
    | some n =>
      dsimp only
      by_cases hp : id ∈ path
      · rw [if_pos hp, if_pos hp]
      · rw [if_neg hp, if_neg hp]
        -- the targets are typed along the path grown by a node of the graph not on it
        have hlt : g.unseen (id :: path) < g.unseen path :=
          unseen_lt (fun _ hy => List.mem_cons_of_mem _ hy) (mem_ids_of_node? hn) hp
            List.mem_cons_self
        have hconf : (g.updateNode id Node.configure).ids = g.ids :=
          ((tame_configure g).updateNode id).ids
        have hrun : ∀ (ts : List NodeId) (s : Graph), s.ids = g.ids →
            (List.mapM (m := StateM Graph) (fun t => updateTypes fuel t (id :: path)) ts).run s =
              (List.mapM (m := StateM Graph) (fun t => updateTypes fuel' t (id :: path)) ts).run
                s :=
          mapM_run_congr (fun s : Graph => s.ids = g.ids)
            (fun t s hs => ih (show s.unseen (id :: path) < fuel by rw [unseen_of_ids hs]; omega)
              (show s.unseen (id :: path) < fuel' by rw [unseen_of_ids hs]; omega))
            (fun t s hs => (keeps_updateTypes fuel t (id :: path) s).ids.trans hs)
        rw [hrun _ _ hconf]

theorem updateTypes_rank (id : NodeId) (path : List NodeId) (g : Graph) (extra : Nat) :
    updateTypes (g.unseen path + 1 + extra) id path g = updateTypes (g.unseen path + 1) id path g :=
  updateTypes_congr (by omega) (by omega)

theorem updateTypesFrom_eq_rank (g : Graph) (id : NodeId) :
    g.updateTypesFrom id = updateTypes (g.unseen [] + 1) id [] g :=
  updateTypes_congr (by rw [unseen_nil]; omega) (by omega)

end FullPass

section LightPass

/-- The resolved list `R'` of a light pass extends `R` by nodes of the graph not in `R`, each
once: a node is resolved only by the call that adds it. -/
def LightGrows (g : Graph) (R R' : List NodeId) : Prop :=
  ∃ fresh, R' = R ++ fresh ∧ fresh.Nodup ∧ ∀ y ∈ fresh, y ∈ g.ids ∧ y ∉ R

namespace LightGrows

variable {g : Graph} {R R₁ R₂ R₃ : List NodeId}

theorem refl (g : Graph) (R : List NodeId) : g.LightGrows R R :=
  ⟨[], by simp, List.nodup_nil, by simp⟩

theorem trans (h₁ : g.LightGrows R₁ R₂) (h₂ : g.LightGrows R₂ R₃) : g.LightGrows R₁ R₃ := by
  obtain ⟨f₁, rfl, hn₁, hf₁⟩ := h₁
  obtain ⟨f₂, rfl, hn₂, hf₂⟩ := h₂
  refine ⟨f₁ ++ f₂, by simp, List.nodup_append.mpr ⟨hn₁, hn₂, ?_⟩, fun y hy => ?_⟩
  · rintro a ha b hb rfl
    exact (hf₂ a hb).2 (List.mem_append_right _ ha)
  · rcases List.mem_append.mp hy with hy | hy
    · exact hf₁ y hy
    · exact ⟨(hf₂ y hy).1, fun h => (hf₂ y hy).2 (List.mem_append_left _ h)⟩

theorem subset (h : g.LightGrows R₁ R₂) : ∀ y ∈ R₁, y ∈ R₂ := by
  obtain ⟨f, rfl, -, -⟩ := h
  exact fun y hy => List.mem_append_left _ hy

theorem of_ids {g' : Graph} (h : g.LightGrows R₁ R₂) (hids : g'.ids = g.ids) :
    g'.LightGrows R₁ R₂ := by
  rw [LightGrows, hids]
  exact h

theorem snoc {x : NodeId} (hx : x ∈ g.ids) (hs : x ∉ R) : g.LightGrows R (R ++ [x]) :=
  ⟨[x], rfl, List.nodup_singleton x, fun y hy => by
    rw [List.mem_singleton.mp hy]
    exact ⟨hx, hs⟩⟩

end LightGrows

/-- The light pass keeps the ids of the graph and grows the resolved list by nodes not resolved
before, each once. -/
theorem lightGrows_updateTypesLight (fuel : Nat) (id : NodeId) (R : List NodeId) (g : Graph) :
    g.LightGrows R (updateTypesLight fuel id R g).2.1 := by
  induction fuel generalizing id R g with
  | zero => exact LightGrows.refl g R
  | succ fuel ih =>
    rw [updateTypesLight]
    cases hn : g.node? id with
    | none => exact LightGrows.refl g R
    | some n =>
      dsimp only
      by_cases hr : id ∈ R
      · rw [if_pos hr]
        exact LightGrows.refl g R
      · rw [if_neg hr]
        -- the node is added first; each target's pass keeps the ids and grows the list further
        have hargs := rel_mapM
          (fun s s' : List NodeId × Graph => Keeps s.2 s'.2 ∧ s.2.LightGrows s.1 s'.1)
          (fun s => ⟨Keeps.refl s.2, LightGrows.refl s.2 s.1⟩)
          (fun h₁ h₂ => ⟨h₁.1.trans h₂.1, h₁.2.trans (h₂.2.of_ids h₁.1.ids.symm)⟩)
          (fun t s => updateTypesLight fuel t s.1 s.2)
          (fun t s => ⟨keeps_updateTypesLight fuel t s.1 s.2, ih t s.1 s.2⟩) n.targets
          (R ++ [id], g)
        generalize StateT.run _ _ = p at hargs ⊢
        obtain ⟨ts, R', g₂⟩ := p
        exact (LightGrows.snoc (mem_ids_of_node? hn) hr).trans hargs.2

/-- The light pass gives the same answer for any two fuels above the number of nodes of the graph
not resolved. -/
theorem updateTypesLight_congr {fuel fuel' : Nat} {id : NodeId} {R : List NodeId} {g : Graph}
    (hf : g.unseen R < fuel) (hf' : g.unseen R < fuel') :
    updateTypesLight fuel id R g = updateTypesLight fuel' id R g := by
  induction fuel generalizing fuel' id R g with
  | zero => omega
  | succ fuel ih =>
    obtain ⟨fuel', rfl⟩ : ∃ k, fuel' = k + 1 := ⟨fuel' - 1, by omega⟩
    rw [updateTypesLight, updateTypesLight]
    cases hn : g.node? id with
    | none => rfl
    | some n =>
      dsimp only
      by_cases hr : id ∈ R
      · rw [if_pos hr, if_pos hr]
      · rw [if_neg hr, if_neg hr]
        -- every target is passed with the node counted as resolved, so below the rank
        have hlt : g.unseen (R ++ [id]) < g.unseen R := unseen_snoc_lt (mem_ids_of_node? hn) hr
        let I : List NodeId × Graph → Prop := fun s => s.2.ids = g.ids ∧ ∀ y ∈ R ++ [id], y ∈ s.1
        have hrank : ∀ s, I s → s.2.unseen s.1 < g.unseen R := fun s hs => by
          have := unseen_le (g := g) hs.2
          rw [unseen_of_ids hs.1]
          omega
        have hrun : ∀ (ts : List NodeId) (s : List NodeId × Graph), I s →
            (List.mapM (m := StateM (List NodeId × Graph))
              (fun t s => updateTypesLight fuel t s.1 s.2) ts).run s =
            (List.mapM (m := StateM (List NodeId × Graph))
              (fun t s => updateTypesLight fuel' t s.1 s.2) ts).run s :=
          mapM_run_congr I
            (fun t s hs => ih (show s.2.unseen s.1 < fuel by have := hrank s hs; omega)
              (show s.2.unseen s.1 < fuel' by have := hrank s hs; omega))
            (fun t s hs => ⟨(keeps_updateTypesLight fuel t s.1 s.2).ids.trans hs.1,
              fun y hy => (lightGrows_updateTypesLight fuel t s.1 s.2).subset y (hs.2 y hy)⟩)
        rw [hrun _ _ ⟨rfl, fun _ hy => hy⟩]

theorem updateTypesLight_rank (id : NodeId) (R : List NodeId) (g : Graph) (extra : Nat) :
    updateTypesLight (g.unseen R + 1 + extra) id R g = updateTypesLight (g.unseen R + 1) id R g :=
  updateTypesLight_congr (by omega) (by omega)

theorem updateTypesLight_eq_rank (id : NodeId) (R : List NodeId) (g : Graph) :
    updateTypesLight (g.nodes.length + 2) id R g = updateTypesLight (g.unseen R + 1) id R g := by
  have : g.unseen R ≤ g.unseen [] := unseen_le (by simp)
  rw [unseen_nil] at this
  exact updateTypesLight_congr (by omega) (by omega)

end LightPass

end Graph

namespace Compiler

/-- A later state of a compilation pass keeps a record of every node `c` has one of. -/
def Recorded (c c' : Compiler) : Prop := ∀ y, c.lookup y ≠ none → c'.lookup y ≠ none

namespace Recorded

variable {c₁ c₂ c₃ : Compiler}

theorem refl (c : Compiler) : Recorded c c := fun _ h => h

theorem trans (h₁ : Recorded c₁ c₂) (h₂ : Recorded c₂ c₃) : Recorded c₁ c₃ :=
  fun y h => h₂ y (h₁ y h)

theorem of_lookup (h : c₂.lookup = c₁.lookup) : Recorded c₁ c₂ := fun y hy => by rwa [h]

theorem record (c : Compiler) (id : NodeId) (s : Option Nat) : Recorded c (c.record id s) := by
  intro y hy
  rw [lookup_record]
  split
  · simp
  · exact hy

end Recorded

end Compiler

namespace Source

variable {src : Source}

/-- The nodes of the source whose id has no record in a state of a pass: the rank of the pass. -/
def unrecorded (src : Source) (c : Compiler) : Nat :=
  (src.nodes.filter fun n => c.lookup n.id = none).length

theorem unrecorded_le {c c' : Compiler} (h : c.Recorded c') :
    src.unrecorded c' ≤ src.unrecorded c := by
  unfold unrecorded
  rw [← List.countP_eq_length_filter, ← List.countP_eq_length_filter]
  refine List.countP_mono_left fun n _ hn => ?_
  simp only [decide_eq_true_eq] at hn ⊢
  exact Decidable.byContradiction fun hne => h n.id hne hn |>.elim

/-- Recording a node of the source that had no record lowers the rank. -/
theorem unrecorded_lt {c c' : Compiler} (h : c.Recorded c') {id : NodeId} {n : Node}
    (hn : src.node? id = some n) (hnone : c.lookup id = none) (hsome : c'.lookup id ≠ none) :
    src.unrecorded c' < src.unrecorded c := by
  have hmem : n ∈ src.nodes := List.mem_of_find?_eq_some hn
  have hid : n.id = id := by simpa using List.find?_some hn
  refine Graph.length_filter_lt_of_imp (fun m _ hm => ?_) hmem (by simp [hid, hnone])
    (by simp [hid, hsome])
  simp only [decide_eq_true_eq] at hm ⊢
  exact Decidable.byContradiction fun hne => h m.id hne hm |>.elim

/-- Compiling a list of inputs, each by a compilation that keeps records, keeps records. -/
theorem recorded_compileInputs {compileNode : NodeId → CompileM (Option Nat)}
    (hnode : ∀ t (c : Compiler), c.Recorded ((compileNode t).run c).2) (id : NodeId) :
    ∀ (ls : List Link) (index : Nat) (c : Compiler),
      c.Recorded ((compileInputs compileNode id ls index).run c).2
  | [], _, c => Compiler.Recorded.refl c
  | l :: ls, index, c => by
    rw [compileInputs, CompileM.run_bind]
    have h₁ := hnode l.target c
    generalize (compileNode l.target).run c = p at h₁ ⊢
    obtain ⟨s, c₁⟩ := p
    dsimp only
    split
    · exact h₁.trans (Compiler.Recorded.of_lookup rfl)
    · rw [CompileM.run_bind]
      have h₂ := recorded_compileInputs hnode id ls (index + 1) c₁
      generalize (compileInputs compileNode id ls (index + 1)).run c₁ = q at h₂ ⊢
      obtain ⟨r, c₂⟩ := q
      dsimp only
      split <;> exact h₁.trans h₂

/-- A compilation pass never takes a record back. -/
theorem recorded_compile (fuel : Nat) (id : NodeId) (c : Compiler) :
    c.Recorded ((src.compile fuel id).run c).2 := by
  induction fuel generalizing id c with
  | zero => exact Compiler.Recorded.refl c
  | succ fuel ih =>
    rw [Source.compile]
    split
    · exact Compiler.Recorded.refl c
    rw [CompileM.run_bind, CompileM.run_get]
    dsimp only
    split
    · exact Compiler.Recorded.refl c
    · simp only [CompileM.run_bind, CompileM.run_modify, CompileM.run_pure]
      exact Compiler.Recorded.of_lookup rfl
    · split
      · exact Compiler.Recorded.refl c
      · rename_i n _
        simp only [CompileM.run_bind, CompileM.run_modify]
        have hrec := Compiler.Recorded.record c id none
        split
        · exact hrec
        · split
          · exact hrec
          · rw [CompileM.run_bind]
            have hins := recorded_compileInputs (fun t c => ih t c) id n.inputs 0 (c.record id none)
            generalize StateT.run (compileInputs (src.compile fuel) id n.inputs 0)
              (c.record id none) = q at hins ⊢
            obtain ⟨r, c₂⟩ := q
            dsimp only
            split
            · exact hrec.trans hins
            · simp only [CompileM.run_bind, CompileM.run_get, CompileM.run_set, CompileM.run_pure]
              exact hrec.trans (hins.trans (Compiler.Recorded.record _ _ _))

/-- Compiling a list of inputs gives the same answer with two compilations that agree from every
state keeping the records of `c₀`, the first of which keeps records. -/
theorem compileInputs_congr {compileNode compileNode' : NodeId → CompileM (Option Nat)}
    {c₀ : Compiler} (hnode : ∀ t c, c₀.Recorded c → (compileNode t).run c = (compileNode' t).run c)
    (hkeep : ∀ t (c : Compiler), c.Recorded ((compileNode t).run c).2) (id : NodeId) :
    ∀ (ls : List Link) (index : Nat) (c : Compiler), c₀.Recorded c →
      (compileInputs compileNode id ls index).run c = (compileInputs compileNode' id ls index).run c
  | [], _, _, _ => rfl
  | l :: ls, index, c, hc => by
    rw [compileInputs, compileInputs, CompileM.run_bind, CompileM.run_bind]
    have h₁ := hc.trans (hkeep l.target c)
    rw [← hnode l.target c hc]
    generalize (compileNode l.target).run c = p at h₁ ⊢
    obtain ⟨s, c₁⟩ := p
    dsimp only
    split
    · rfl
    · rw [CompileM.run_bind, CompileM.run_bind,
        compileInputs_congr hnode hkeep id ls (index + 1) c₁ h₁]

/-- The compilation pass gives the same answer for any two fuels above the number of nodes of the
source without a record. -/
theorem compile_congr {fuel fuel' : Nat} {id : NodeId} {c : Compiler}
    (hf : src.unrecorded c < fuel) (hf' : src.unrecorded c < fuel') :
    (src.compile fuel id).run c = (src.compile fuel' id).run c := by
  induction fuel generalizing fuel' id c with
  | zero => omega
  | succ fuel ih =>
    obtain ⟨fuel', rfl⟩ : ∃ k, fuel' = k + 1 := ⟨fuel' - 1, by omega⟩
    rw [Source.compile, Source.compile]
    by_cases hno : id = noNode
    · rw [if_pos hno, if_pos hno]
    rw [if_neg hno, if_neg hno, CompileM.run_bind, CompileM.run_bind, CompileM.run_get]
    dsimp only
    cases hlook : c.lookup id with
    | some r => cases r <;> rfl
    | none =>
      dsimp only
      cases hn : src.node? id with
      | none => rfl
      | some n =>
        dsimp only
        simp only [CompileM.run_bind, CompileM.run_modify]
        -- the node is recorded before its inputs are compiled, which lowers the rank
        have hrec := Compiler.Recorded.record c id none
        have hlt : src.unrecorded (c.record id none) < src.unrecorded c :=
          unrecorded_lt hrec hn hlook (by simp [Compiler.lookup_record])
        have hrank : ∀ c', (c.record id none).Recorded c' → src.unrecorded c' < src.unrecorded c :=
          fun c' h => Nat.lt_of_le_of_lt (@unrecorded_le src _ _ h) hlt
        split
        · rfl
        · split
          · rfl
          · rw [CompileM.run_bind, CompileM.run_bind,
              compileInputs_congr (fun t c' h => ih (show src.unrecorded c' < fuel by
                  have := hrank c' h; omega) (show src.unrecorded c' < fuel' by
                  have := hrank c' h; omega))
                (fun t c' => recorded_compile fuel t c') id n.inputs 0 _ (Compiler.Recorded.refl _)]

theorem compile_rank (id : NodeId) (c : Compiler) (extra : Nat) :
    (src.compile (src.unrecorded c + 1 + extra) id).run c =
      (src.compile (src.unrecorded c + 1) id).run c :=
  compile_congr (by omega) (by omega)

theorem compile_eq_rank (id : NodeId) (c : Compiler) :
    (src.compile (src.nodes.length + 1) id).run c = (src.compile (src.unrecorded c + 1) id).run c :=
  compile_congr (show src.unrecorded c < src.nodes.length + 1 by
    have := List.length_filter_le (fun n => decide (c.lookup n.id = none)) src.nodes
    unfold unrecorded
    omega) (by omega)

end Source

end NodeGraph

namespace NodeGraph

/-- Every graph pass ends within its rank, on every graph, self-loops and cycles included. The full
type pass from a node recurses at most one level more than the nodes of the graph off its path. The
light pass recurses at most one level more than the nodes not resolved, and adds each node it
resolves to the resolved list once. The compilation pass recurses at most one level more than the
nodes without a record and never takes a record back, so it enters each node once per pass. The
upstream walk takes at most one step more than the nodes not seen, and sees each node once. The
fuel a rebuild, a tick, a compilation and an evaluation give each pass covers its rank. -/
theorem graph_passes_end_within_rank :
    (∀ (g : Graph) (id : NodeId) (path : List NodeId) (extra : Nat),
      Graph.updateTypes (g.unseen path + 1 + extra) id path g =
        Graph.updateTypes (g.unseen path + 1) id path g) ∧
    (∀ (g : Graph) (id : NodeId) (R : List NodeId) (extra : Nat),
      Graph.updateTypesLight (g.unseen R + 1 + extra) id R g =
          Graph.updateTypesLight (g.unseen R + 1) id R g ∧
        g.LightGrows R (Graph.updateTypesLight (g.unseen R + 1) id R g).2.1) ∧
    (∀ (src : Source) (id : NodeId) (c : Compiler) (extra : Nat),
      (src.compile (src.unrecorded c + 1 + extra) id).run c =
          (src.compile (src.unrecorded c + 1) id).run c ∧
        c.Recorded ((src.compile (src.unrecorded c + 1) id).run c).2) ∧
    (∀ (g : Graph) (stack seen : List NodeId) (extra : Nat),
      Graph.feedersOf.go g (g.unseen seen + 1 + extra) stack seen =
        Graph.feedersOf.go g (g.unseen seen + 1) stack seen) ∧
    (∀ (g : Graph) (roots : List NodeId), (g.feedersOf roots).Nodup) ∧
    (∀ (g : Graph) (id : NodeId) (R roots : List NodeId) (src : Source) (c : Compiler),
      g.updateTypesFrom id = Graph.updateTypes (g.unseen [] + 1) id [] g ∧
      Graph.updateTypesLight (g.nodes.length + 2) id R g =
        Graph.updateTypesLight (g.unseen R + 1) id R g ∧
      (src.compile (src.nodes.length + 1) id).run c =
        (src.compile (src.unrecorded c + 1) id).run c ∧
      g.feedersOf roots = Graph.feedersOf.go g (g.unseen [] + 1) roots.reverse []) := by
  refine ⟨fun g id path extra => Graph.updateTypes_rank id path g extra,
    fun g id R extra =>
      ⟨Graph.updateTypesLight_rank id R g extra, Graph.lightGrows_updateTypesLight _ id R g⟩,
    fun src id c extra => ⟨Source.compile_rank id c extra, Source.recorded_compile _ id c⟩,
    fun g stack seen extra => Graph.feedersOf_go_rank stack seen extra,
    Graph.nodup_feedersOf,
    fun g id R roots src c => ⟨Graph.updateTypesFrom_eq_rank g id,
      Graph.updateTypesLight_eq_rank id R g, Source.compile_eq_rank id c, ?_⟩⟩
  -- the walk from the roots starts with nothing seen
  rw [Graph.unseen_nil]
  rfl

end NodeGraph
