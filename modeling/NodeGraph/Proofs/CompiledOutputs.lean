import Mathlib.Data.List.Nodup
import NodeGraph.Proofs.KeptResults

/-!
# The compiled outputs of a graph run once per tick

A pass state that compilation keeps sound gives a program that evaluation can rely on
(`Source.Sound.compiled`), whose constants fit the nodes it was compiled from
(`Source.Sound.constantsFit`); and a pass over the outputs from the empty state hands each stage
out at least as often as the slots and the roots of its program name it
(`Source.compileRoots_counts`). So a stage that keeps no results is named at most once, and the
counting argument of `Program.roots_run_once` applies to the outputs a graph compiles.
-/

namespace NodeGraph

namespace Source

variable {src : Source} {c : Compiler}

/-- A sound pass state's program is one that evaluation can rely on. -/
theorem Sound.compiled (hc : src.Sound c) : Program.Compiled c.program.stages where
  wellFormed i st hst := by
    obtain ⟨n, -, -, hplan, -⟩ := hc.stages i st hst
    exact (Kind.plan_own hplan).wellFormed
  stateNode i st x hst hx := by
    obtain ⟨n, -, -, hplan, -⟩ := hc.stages i st hst
    exact (Kind.plan_own hplan).stateNode x hx
  constantNode i st node t hst hp := by
    obtain ⟨n, -, -, hplan, -⟩ := hc.stages i st hst
    rw [hp] at hplan
    exact ((Kind.plan_own hplan).constant _ _ rfl).1
  injective _ _ _ _ hst hst' hnode := hc.stage_injective hst hst' hnode

theorem Sound.constantsFit (hc : src.Sound c) {s : Run} (hn : s.nodes = src.nodes) :
    Program.ConstantsFit c.program.stages s := by
  intro i st node t hst hp k hk
  obtain ⟨n, hnode, -, hplan, -⟩ := hc.stages i st hst
  rw [hp] at hplan
  obtain ⟨rfl, k', hk', hkt⟩ := (Kind.plan_own hplan).constant _ _ rfl
  have hkind : s.kindOf st.node = some n.kind := by
    simp only [Run.kindOf, hn]
    rw [show src.nodes.find? (·.id == st.node) = some n from hnode]
    rfl
  rw [hkind, Option.bind_some, hk'] at hk
  cases hk
  exact hkt

/-- A pass over outputs from the empty state is sound, and hands each stage out at least as often
as the slots of its program and the outputs compiled to it name it. -/
theorem compileRoots_counts (name : String) (ids : List NodeId) :
    src.Sound ((Graph.compileRoots src name ids).run {}).2 ∧
      ∀ j, ((Graph.compileRoots src name ids).run {}).2.slotRefs j +
        ((Graph.compileRoots src name ids).run {}).1.count j ≤
        ((Graph.compileRoots src name ids).run {}).2.consumersAt j := by
  obtain ⟨hs, ht⟩ := compileRoots_ok name ids {} sound_empty
  refine ⟨hs, fun j => ?_⟩
  have h := ht j
  simp only [Compiler.Tally, Compiler.consumersAt, Compiler.slotRefs] at h ⊢
  have h0 : Program.slotRefs ({} : Compiler).program.stages [] j = 0 := rfl
  simp only [h0] at h
  simpa using h

end Source

namespace Source

variable {src : Source} {c : Compiler} {roots : List Nat}

theorem consumersAt_of_stage {i : Nat} {st : Stage} (hst : c.program.stages[i]? = some st) :
    c.consumersAt i = st.consumers := by
  simp [Compiler.consumersAt, hst]

theorem single_named_once (hc : src.Sound c)
    (hcount : ∀ j, c.slotRefs j + roots.count j ≤ c.consumersAt j) (m : Nat)
    (hm : Program.Single c.program.stages m) :
    Program.slotRefs c.program.stages [] m + roots.count m ≤ 1 := by
  obtain ⟨st, hst, hmemo⟩ := hm
  have hlt : ¬ 2 ≤ st.consumers := fun h => by
    simp [(hc.memoize_iff m st hst).mpr h] at hmemo
  have h := hcount m
  rw [consumersAt_of_stage hst] at h
  simp only [Compiler.slotRefs] at h
  omega

theorem root_lt_size (hcount : ∀ j, c.slotRefs j + roots.count j ≤ c.consumersAt j) {r : Nat}
    (hr : r ∈ roots) : r < c.program.stages.size := by
  have hpos : 0 < c.consumersAt r :=
    Nat.lt_of_lt_of_le (List.count_pos_iff.mpr hr) (Nat.le_trans (Nat.le_add_left _ _) (hcount r))
  by_contra hge
  simp [Compiler.consumersAt, Nat.le_of_not_lt hge] at hpos

theorem Sound.nodes_nodup (hc : src.Sound c) {L : List Nat} (hL : L.Nodup) :
    (L.filterMap fun q => (c.program.stages[q]?).map Stage.node).Nodup := by
  refine hL.filterMap fun a a' b ha ha' => ?_
  simp only [Option.mem_def, Option.map_eq_some_iff] at ha ha'
  obtain ⟨st, hst, rfl⟩ := ha
  obtain ⟨st', hst', hnode⟩ := ha'
  exact hc.stage_injective hst hst' hnode.symm

/-- Running the roots of a pass over outputs from the empty state, in a tick, from a state in which
nothing has run and nothing is kept for the tick: every root runs exactly once, and every stage, and
so every node, at most once. -/
theorem compileRoots_run_once (name : String) (ids : List NodeId)
    (hpass : (Graph.compileRoots src name ids).run {} = (roots, c)) {tick : Nat} {dt : Float32}
    {s s' : Run} (hfits : Program.ConstantsFit c.program.stages s) (hran : s.ran = [])
    (hsize : c.program.stages.size ≤ s.memos.size)
    (hfresh : ∀ (q : Nat) (m : Memo), (s.memos[q]?).join = some m → m.tick ≠ tick)
    (h : (roots.forM (Program.run c.program.stages tick dt)).run s = .ok ((), s')) :
    (∀ r ∈ roots, s'.ran.count r = 1) ∧ s'.ran.Nodup ∧
      (s'.ran.filterMap fun q => (c.program.stages[q]?).map Stage.node).Nodup := by
  obtain ⟨hs, hcount⟩ := @compileRoots_counts src name ids
  simp only [hpass] at hs hcount
  obtain ⟨hnodup, hone⟩ := Program.roots_run_once hs.compiled (fun r hr => root_lt_size hcount hr)
    (single_named_once hs hcount) hfits hran hsize hfresh h
  exact ⟨hone, hnodup, hs.nodes_nodup hnodup⟩

end Source

namespace Graph

theorem compileOutputs_pass (g : Graph) : ∃ (src : Source) (name : String) (ids : List NodeId),
    src.nodes = g.compileOutputs.nodes ∧
    ((compileRoots src name ids).run {}).1 = g.compileOutputs.roots ∧
    ((compileRoots src name ids).run {}).2.program = g.compileOutputs.program := by
  rcases h : g.lightPass g.outputs with ⟨_, _, g₁⟩
  simp only [compileOutputs, h]
  exact ⟨g₁.source, g₁.name, g₁.outputs, rfl, rfl, rfl⟩

theorem compileOutputs_constantsFit (g : Graph) {s : Run} (hn : s.nodes = g.compileOutputs.nodes) :
    Program.ConstantsFit g.compileOutputs.program.stages s := by
  obtain ⟨src, name, ids, hsrc, -, hprog⟩ := g.compileOutputs_pass
  rw [← hprog]
  exact (Source.compileRoots_counts name ids).1.constantsFit (hn.trans hsrc.symm)

/-- Once-per-tick evaluation of the outputs a graph compiles, for every graph.

* A stage keeps its results exactly when it was handed out twice or more, and the slots and roots
  of the program that name it are no more than the times it was handed out.
* A stage that keeps its results, asked in a tick for which it kept nothing, runs once; after that,
  whatever else is asked in the tick, it does not run again, and every call of `evalValue` for it
  answers with the first result and changes nothing.
* Running the roots in a tick, from a state in which nothing has run and nothing is kept for the
  tick, runs every root exactly once and every stage, and so every node, at most once, however
  many roots and slots reach it. -/
theorem compileOutputs_once_per_tick (g : Graph) :
    (∀ (i : Nat) (st : Stage), g.compileOutputs.program.stages[i]? = some st →
      (st.memoize = true ↔ 2 ≤ st.consumers) ∧
      Program.slotRefs g.compileOutputs.program.stages [] i + g.compileOutputs.roots.count i ≤
        st.consumers) ∧
    (∀ (i : Nat) (st : Stage) (tick : Nat) (dt : Float32) (s s₁ : Run) (x : Option Value),
      g.compileOutputs.program.stages[i]? = some st → st.memoize = true →
      Program.ConstantsFit g.compileOutputs.program.stages s → i < s.memos.size →
      (∀ m : Memo, (s.memos[i]?).join = some m → m.tick ≠ tick) →
      (Program.evalValue g.compileOutputs.program.stages tick dt i).run s = .ok (x, s₁) →
      s₁.ran.count i = s.ran.count i + 1 ∧
      ∀ s₂, Relation.ReflTransGen (Program.Requested g.compileOutputs.program.stages tick dt) s₁ s₂ →
        s₂.ran.count i = s₁.ran.count i ∧
        (Program.evalValue g.compileOutputs.program.stages tick dt i).run s₂ = .ok (x, s₂)) ∧
    (∀ (tick : Nat) (dt : Float32) (s s' : Run),
      Program.ConstantsFit g.compileOutputs.program.stages s → s.ran = [] →
      g.compileOutputs.program.stages.size ≤ s.memos.size →
      (∀ (q : Nat) (m : Memo), (s.memos[q]?).join = some m → m.tick ≠ tick) →
      (g.compileOutputs.roots.forM (Program.run g.compileOutputs.program.stages tick dt)).run s =
        .ok ((), s') →
      (∀ r ∈ g.compileOutputs.roots, s'.ran.count r = 1) ∧ s'.ran.Nodup ∧
      (s'.ran.filterMap fun q => (g.compileOutputs.program.stages[q]?).map Stage.node).Nodup) := by
  obtain ⟨src, name, ids, -, hroots, hprog⟩ := g.compileOutputs_pass
  obtain ⟨hs, hcount⟩ := @Source.compileRoots_counts src name ids
  rw [← hroots, ← hprog]
  refine ⟨fun i st hst => ⟨hs.memoize_iff i st hst, ?_⟩,
    fun i st tick dt s s₁ x hst hm hfits hsize hfresh h =>
      Program.kept_result_answers_tick hs.compiled hst hm hfits hsize hfresh h,
    fun tick dt s s' hfits hran hsize hfresh h =>
      Source.compileRoots_run_once name ids rfl hfits hran hsize hfresh h⟩
  have h := hcount i
  rw [Source.consumersAt_of_stage hst] at h
  exact h

end Graph

end NodeGraph
