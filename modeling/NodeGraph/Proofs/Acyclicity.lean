import NodeGraph.Proofs.CompiledOutputs
import NodeGraph.Proofs.Operations

/-!
# Compiled programs have no cycles

A compilation pass appends a stage only once the stages of its inputs are built, so every input
slot holds an earlier stage (`Source.Sound.slotsBelow`): evaluation recurses along a well-founded
order, and a stage it meets again below itself belongs to another node and keeps its state in
another node. The pass cuts a cycle of links where it meets a node it is still compiling
(`Graph.cyclicTap`), so after any rebuild the program the ticks run has no cycle either, although
the type pass may keep an output over a cycle of links.
-/

namespace NodeGraph

namespace Program

/-- Stage `j` sits in an input slot of stage `i`. -/
def Feeds (p : Program) (i j : Nat) : Prop := ∃ st, p.stages[i]? = some st ∧ some j ∈ st.inputs

/-- Stage `i` reaches stage `j` through one input slot or more. -/
def Reaches (p : Program) : Nat → Nat → Prop := Relation.TransGen p.Feeds

/-- Every input slot of every stage holds an earlier stage. -/
def SlotsBelow (p : Program) : Prop := ∀ i j, p.Feeds i j → j < i

variable {p : Program}

theorem SlotsBelow.lt_of_reaches (h : p.SlotsBelow) {i j : Nat} (hr : p.Reaches i j) : j < i := by
  induction hr with
  | single hf => exact h _ _ hf
  | tail _ hf ih => exact Nat.lt_trans (h _ _ hf) ih

theorem SlotsBelow.not_reaches_self (h : p.SlotsBelow) (i : Nat) : ¬ p.Reaches i i :=
  fun hr => Nat.lt_irrefl i (h.lt_of_reaches hr)

theorem SlotsBelow.wellFounded (h : p.SlotsBelow) : WellFounded (flip p.Reaches) :=
  Subrelation.wf (fun hr => h.lt_of_reaches hr) Nat.lt_wfRel.wf

end Program

namespace Source

variable {src : Source} {c : Compiler}

theorem Sound.slotsBelow (hc : src.Sound c) : c.program.SlotsBelow := by
  rintro i j ⟨st, hst, hj⟩
  obtain ⟨n, -, -, -, hins⟩ := hc.stages i st hst
  obtain ⟨k, hk⟩ := List.mem_iff_getElem?.mp hj
  exact (hins k j (by rw [hk]; rfl)).1

/-- A stage reached from another belongs to another node, and keeps its state, if any, in another
node. -/
theorem Sound.apart_of_reaches (hc : src.Sound c) {i j : Nat} {st st' : Stage}
    (hr : c.program.Reaches i j) (hi : c.program.stages[i]? = some st)
    (hj : c.program.stages[j]? = some st') :
    st'.node ≠ st.node ∧ ∀ x, st'.plan.stateNode? = some x → st.plan.stateNode? ≠ some x := by
  have hlt : j < i := hc.slotsBelow.lt_of_reaches hr
  have hnode : st'.node ≠ st.node := by
    intro he
    have hji : j = i := hc.stage_injective hj hi he
    omega
  refine ⟨hnode, fun x hx hx' => hnode ?_⟩
  -- a plan keeps its state in its own stage's node
  have hc' := hc.compiled
  rw [← hc'.stateNode j st' x hj hx, ← hc'.stateNode i st x hi hx']

/-- One pass over any list of roots, from the empty state, compiles a program without cycles:
going from a stage to the stages it reaches is well founded and never comes back to it, every stage
reached lies before, and it belongs to another node and keeps its state in another node. -/
theorem compileAll_acyclic (src : Source) (roots : List NodeId) :
    let p := ((src.compileAll roots).run {}).2.program
    WellFounded (flip p.Reaches) ∧ (∀ i, ¬ p.Reaches i i) ∧
      ∀ (i j : Nat) (st st' : Stage), p.Reaches i j → p.stages[i]? = some st →
        p.stages[j]? = some st' →
          j < i ∧ st'.node ≠ st.node ∧
            ∀ x, st'.plan.stateNode? = some x → st.plan.stateNode? ≠ some x := by
  intro p
  have hc : src.Sound ((src.compileAll roots).run {}).2 := compileAll_sound roots {} sound_empty
  have hbelow : p.SlotsBelow := hc.slotsBelow
  refine ⟨hbelow.wellFounded, hbelow.not_reaches_self, fun i j st st' hr hi hj => ?_⟩
  exact ⟨hbelow.lt_of_reaches hr, hc.apart_of_reaches hr hi hj⟩

end Source

namespace Graph

theorem rebuild_compiles_outputs {g g' : Graph} {u : Unit} (h : rebuild.run g = .ok (u, g')) :
    ∃ g₀ : Graph, g' = g₀.compileOutputs := by
  unfold rebuild at h
  obtain ⟨_, g₁, -, h₁⟩ := run_bind_eq_ok h
  obtain ⟨_, g₂, -, h₂⟩ := run_bind_eq_ok h₁
  obtain ⟨_, g₃, hget, h₃⟩ := run_bind_eq_ok h₂
  cases hget
  dsimp only at h₃
  split at h₃
  cases h₃
  exact ⟨_, rfl⟩

end Graph

end NodeGraph
