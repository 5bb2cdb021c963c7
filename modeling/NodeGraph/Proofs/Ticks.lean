import NodeGraph.Proofs.Acyclicity
import NodeGraph.Proofs.Preparation

/-!
# Every tick runs each compiled output once

A tick runs the roots of the graph's program on the results the program kept in earlier ticks.
`Graph.TickReady` is what the counting argument of `Source.compileRoots_run_once` needs of a graph
between ticks: a program from a pass over outputs, constants that fit the nodes, and kept results
of past ticks only. Compiling the outputs gives it, and a tick keeps it; so along any sequence of
ticks from a graph that is marked for a rebuild or ready, every tick runs each root exactly once
and each stage and node at most once (`Graph.ticks_run_roots_once`).
-/

namespace NodeGraph

namespace Program

/-- In state `s`, every kept result is for a tick up to `T`. -/
def KeptBy (T : Nat) (s : Run) : Prop :=
  ∀ (q : Nat) (m : Memo), (s.memos[q]?).join = some m → m.tick ≤ T

variable {stages : Array Stage} {tick : Nat} {dt : Float32} {T : Nat}

theorem KeptBy.of_memos {s s' : Run} (h : KeptBy T s) (hm : s'.memos = s.memos) : KeptBy T s' := by
  intro q m hq
  rw [hm] at hq
  exact h q m hq

theorem KeptBy.mono {T' : Nat} {s : Run} (h : KeptBy T s) (hle : T ≤ T') : KeptBy T' s :=
  fun q m hq => Nat.le_trans (h q m hq) hle

theorem keptBy_keep {σ : Run} (h : KeptBy T σ) (htick : tick ≤ T) (st : Stage) (i : Nat)
    (kept : Option Value) : KeptBy T (keep st i tick kept σ) := by
  intro q m hq
  by_cases hqi : q = i
  · subst hqi
    unfold keep at hq
    split at hq
    · -- the result kept now is for the tick
      by_cases hlt : q < σ.memos.size
      · simp [Array.set!_eq_setIfInBounds, hlt] at hq
        rw [← hq]
        exact htick
      · simp [hlt] at hq
    · exact h q m hq
  · rw [keep_memos_ne st kept σ hqi] at hq
    exact h q m hq

/-- A request in tick `tick ≤ T` keeps every kept result for a tick up to `T`; by induction on the
position of the stage asked for. -/
theorem evalAt_keptBy (hc : Compiled stages) (htick : tick ≤ T) (i : Nat) :
    ∀ (w : Want) (s s' : Run) (x : Option Value), ConstantsFit stages s → KeptBy T s →
      (evalAt stages tick dt i w).run s = .ok (x, s') → KeptBy T s' := by
  induction i using Nat.strongRecOn with
  | ind i ih =>
    intro w s s' x hs hk h
    -- a run of the stage keeps what its steps and its requests keep, and keeps a result for `tick`
    have hrun : ∀ (st : Stage) (σ : Run) (y kept : Option Value), stages[i]? = some st →
        (st.plan.compute dt (readsOf stages tick dt i st)).run (logRun s i) = .ok (y, σ) →
        KeptBy T (keep st i tick kept σ) := by
      intro st σ y kept hst hrun
      have hσ : KeptBy T σ := compute_keeps hc hst (fun _ _ h hσ => hσ.of_memos h.memos)
        (fun j hj t σ σ' v _ hf hσ h => ih j hj (.typed t) σ σ' v hf hσ h) hs (hk.of_memos rfl) hrun
      exact keptBy_keep hσ htick st i kept
    cases w with
    | typed t =>
      rcases evalAt_typed_ok h with ⟨rfl, -⟩ | ⟨st, hst, -, -, y, σ, hc', -, rfl⟩
      · exact hk
      · exact hrun st σ y _ hst hc'
    | effect =>
      obtain ⟨-, ⟨rfl, -⟩ | ⟨st, hst, -, y, σ, hc', rfl⟩⟩ := evalAt_effect_ok h
      · exact hk
      · exact hrun st σ y none hst hc'

/-- Running roots in tick `tick ≤ T` keeps the constants fitting, every kept result for a tick up
to `T`, and a place for each result; by induction on the roots. -/
theorem roots_keptBy (hc : Compiled stages) (htick : tick ≤ T) (roots : List Nat) :
    ∀ s s', ConstantsFit stages s → KeptBy T s →
      (roots.forM (run stages tick dt)).run s = .ok ((), s') →
      ConstantsFit stages s' ∧ KeptBy T s' ∧ s'.memos.size = s.memos.size := by
  induction roots with
  | nil =>
    intro s s' hs hk h
    cases h
    exact ⟨hs, hk, rfl⟩
  | cons r rest ih =>
    intro s s' hs hk h
    rw [List.forM_eq_forM, List.forM_cons] at h
    obtain ⟨_, σ, hr, hrest⟩ := EvalM.run_bind_ok h
    unfold run at hr
    obtain ⟨x, σ', hx, hσ⟩ := EvalM.run_bind_ok hr
    cases hσ
    obtain ⟨w, -, hw⟩ := evalValue_request hc hx
    obtain ⟨hσ, hB, -⟩ := evalAt_frame hc r w s σ x hs hw
    obtain ⟨hs', hk', hsize⟩ := ih σ s' hσ (evalAt_keptBy hc htick r w s σ x hs hk hw) hrest
    exact ⟨hs', hk', hsize.trans hB.size⟩

end Program

namespace Graph

/-- The state in which a tick of `g` runs the roots: the graph's nodes and properties, and the
results its program kept. -/
def tickState (g : Graph) : Run := { nodes := g.nodes, props := g.props, memos := g.program.memos }

/-- What a tick does: it rebuilds a graph marked for it, moves the tick on with the clock's step,
and runs the roots from the state of the graph it rebuilt, if it did, writing back the nodes, the
properties and the kept results. -/
theorem process_ok {g g' : Graph} {elapsed : Float32} (h : (process elapsed).run g = .ok ((), g')) :
    ∃ g₀ s', (g.dirty = true → rebuild.run g = .ok ((), g₀)) ∧ (g.dirty = false → g₀ = g) ∧
      (g₀.roots.forM (Program.run g₀.program.stages (g₀.tick + 1)
        (g₀.clock.step g₀.clockStarted elapsed))).run g₀.tickState = .ok ((), s') ∧
      g'.tick = g₀.tick + 1 ∧ g'.dt = g₀.clock.step g₀.clockStarted elapsed ∧
      g'.roots = g₀.roots ∧ g'.program.stages = g₀.program.stages ∧
      g'.program.memos = s'.memos ∧ g'.nodes = s'.nodes ∧ g'.props = s'.props := by
  unfold process at h
  obtain ⟨_, _, hget, h⟩ := run_bind_eq_ok h
  cases hget
  extract_lets jp at h
  -- what follows the rebuild, if any
  have hjp : ∀ g₀ u, (jp u).run g₀ = .ok ((), g') → ∃ s',
      (g₀.roots.forM (Program.run g₀.program.stages (g₀.tick + 1)
        (g₀.clock.step g₀.clockStarted elapsed))).run g₀.tickState = .ok ((), s') ∧
      g'.tick = g₀.tick + 1 ∧ g'.dt = g₀.clock.step g₀.clockStarted elapsed ∧
      g'.roots = g₀.roots ∧ g'.program.stages = g₀.program.stages ∧
      g'.program.memos = s'.memos ∧ g'.nodes = s'.nodes ∧ g'.props = s'.props := by
    intro g₀ u h
    simp only [jp] at h
    obtain ⟨_, _, hmod, h⟩ := run_bind_eq_ok h
    cases hmod
    obtain ⟨_, _, hget, h⟩ := run_bind_eq_ok h
    cases hget
    obtain ⟨_, _, hset, h⟩ := run_bind_eq_ok h
    cases hset
    obtain ⟨⟨⟨⟩, p⟩, g₂, hrun, h⟩ := run_bind_eq_ok h
    cases h
    obtain ⟨r, hbody, rfl, rfl⟩ := run_runStages hrun
    exact ⟨r, hbody, rfl, rfl, rfl, rfl, rfl, rfl, rfl⟩
  clear_value jp
  split at h
  · rename_i hdirty
    obtain ⟨_, g₀, hre, h⟩ := run_bind_eq_ok h
    obtain ⟨s', hrest⟩ := hjp g₀ _ h
    exact ⟨g₀, s', fun _ => hre, fun h => by simp [hdirty] at h, hrest⟩
  · rename_i hdirty
    obtain ⟨s', hrest⟩ := hjp g _ h
    exact ⟨g, s', fun h => absurd h hdirty, fun _ => rfl, hrest⟩

/-- What a tick needs of a graph it does not rebuild first: the stages and roots of its program
are those of a pass over outputs from the empty state, their constants fit the graph's nodes, and
the program has a place for the results of every stage, holding results of past ticks only. -/
structure TickReady (g : Graph) : Prop where
  pass : ∃ (src : Source) (name : String) (ids : List NodeId),
    ((compileRoots src name ids).run {}).1 = g.roots ∧
      ((compileRoots src name ids).run {}).2.program.stages = g.program.stages
  fits : Program.ConstantsFit g.program.stages g.tickState
  sized : g.program.stages.size ≤ g.program.memos.size
  past : Program.KeptBy g.tick g.tickState

theorem compileOutputs_blank (g : Graph) :
    g.compileOutputs.program.memos = Array.replicate g.compileOutputs.program.stages.size none := by
  obtain ⟨src, name, ids, -, -, hprog⟩ := g.compileOutputs_pass
  rw [← hprog]
  exact (Source.compileRoots_counts name ids).1.blank

theorem tickReady_compileOutputs (g : Graph) : g.compileOutputs.TickReady where
  pass := by
    obtain ⟨src, name, ids, -, hroots, hprog⟩ := g.compileOutputs_pass
    exact ⟨src, name, ids, hroots, by rw [hprog]⟩
  fits := g.compileOutputs_constantsFit rfl
  sized := by
    rw [g.compileOutputs_blank, Array.size_replicate]
  past q m hq := by
    simp only [tickState, g.compileOutputs_blank, Array.getElem?_replicate] at hq
    split at hq <;> simp at hq

theorem rebuild_tickReady {g g' : Graph} (h : rebuild.run g = .ok ((), g')) : g'.TickReady := by
  obtain ⟨g₀, rfl⟩ := rebuild_compiles_outputs h
  exact tickReady_compileOutputs g₀

theorem prepare_tickReady {g g' : Graph} (h : prepare.run g = .ok ((), g')) : g'.TickReady := by
  rcases prepare_cases h with ⟨-, hre⟩ | ⟨-, rfl⟩
  · exact rebuild_tickReady hre
  · exact tickReady_compileOutputs g

theorem TickReady.run_once {g : Graph} (hr : g.TickReady) {dt : Float32} {s' : Run}
    (h : (g.roots.forM (Program.run g.program.stages (g.tick + 1) dt)).run g.tickState =
      .ok ((), s')) :
    ((∀ r ∈ g.roots, s'.ran.count r = 1) ∧ s'.ran.Nodup ∧
      (s'.ran.filterMap fun q => (g.program.stages[q]?).map Stage.node).Nodup) ∧
      Program.ConstantsFit g.program.stages s' ∧ Program.KeptBy (g.tick + 1) s' ∧
      s'.memos.size = g.program.memos.size := by
  obtain ⟨src, name, ids, hroots, hstages⟩ := hr.pass
  -- nothing kept is for the tick that runs
  have hfresh : ∀ (q : Nat) (m : Memo), (g.tickState.memos[q]?).join = some m →
      m.tick ≠ g.tick + 1 := fun q m hq => Nat.ne_of_lt (Nat.lt_succ_of_le (hr.past q m hq))
  rw [← hroots, ← hstages] at h ⊢
  have hfits := hr.fits
  have hsized := hr.sized
  rw [← hstages] at hfits hsized
  refine ⟨Source.compileRoots_run_once name ids rfl hfits rfl hsized hfresh h, ?_⟩
  exact Program.roots_keptBy (Source.compileRoots_counts name ids).1.compiled (Nat.le_refl _) _ _ _
    hfits (hr.past.mono (Nat.le_succ _)) h

/-- A tick of a graph that is marked for a rebuild or ready for a tick runs its roots from a state
in which nothing has run and only results of earlier ticks are kept: every root runs exactly once
and every stage, and so every node, at most once. The graph it leaves is ready for the next tick. -/
theorem process_runs_roots_once {g g' : Graph} {elapsed : Float32}
    (hg : g.dirty = true ∨ g.TickReady) (h : (process elapsed).run g = .ok ((), g')) :
    g'.TickReady ∧ ∃ s s' : Run, s.ran = [] ∧
      (∀ (q : Nat) (m : Memo), (s.memos[q]?).join = some m → m.tick < g'.tick) ∧
      (g'.roots.forM (Program.run g'.program.stages g'.tick g'.dt)).run s = .ok ((), s') ∧
      g'.nodes = s'.nodes ∧ g'.program.memos = s'.memos ∧
      (∀ r ∈ g'.roots, s'.ran.count r = 1) ∧ s'.ran.Nodup ∧
      (s'.ran.filterMap fun q => (g'.program.stages[q]?).map Stage.node).Nodup := by
  obtain ⟨g₀, s', hre, hclean, hrun, htick, hdt, hroots, hstages, hmemos, hnodes, hprops⟩ :=
    process_ok h
  -- the graph the tick runs on is ready: rebuilt, or ready already
  have hr₀ : g₀.TickReady := by
    cases hd : g.dirty
    · rcases hg with hg | hg
      · simp [hd] at hg
      · rw [hclean hd]
        exact hg
    · exact rebuild_tickReady (hre hd)
  obtain ⟨hcounts, hfits, hkept, hsize⟩ := hr₀.run_once hrun
  refine ⟨⟨?_, ?_, ?_, ?_⟩, g₀.tickState, s', rfl, fun q m hq => ?_, ?_, hnodes, hmemos, ?_⟩
  · obtain ⟨src, name, ids, hr, hs⟩ := hr₀.pass
    exact ⟨src, name, ids, hr.trans hroots.symm, hs.trans hstages.symm⟩
  · rw [hstages]
    exact hfits.of_nodes hnodes
  · rw [hstages, hmemos]
    exact Nat.le_trans hr₀.sized (Nat.le_of_eq hsize.symm)
  · rw [htick]
    exact hkept.of_memos hmemos
  · rw [htick]
    exact Nat.lt_succ_of_le (hr₀.past q m hq)
  · rw [hroots, hstages, htick, hdt]
    exact hrun
  · rw [hroots, hstages]
    exact hcounts

/-- One tick, with any time from the host. -/
def Ticked (g g' : Graph) : Prop := ∃ elapsed : Float32, (process elapsed).run g = .ok ((), g')

theorem ticks_keep_ready {g g₁ : Graph} (hg : g.dirty = true ∨ g.TickReady)
    (hrun : Relation.ReflTransGen Ticked g g₁) : g₁.dirty = true ∨ g₁.TickReady := by
  induction hrun with
  | refl => exact hg
  | tail _ hstep ih =>
    obtain ⟨elapsed, h⟩ := hstep
    exact .inr (process_runs_roots_once ih h).1

/-- Along any sequence of ticks from a graph that is marked for a rebuild or ready for a tick, in
particular from a prepared graph, every tick runs its roots from a state in which nothing has run
and only results of earlier ticks are kept: every root exactly once, and every stage and every
node at most once. -/
theorem ticks_run_roots_once {g g₁ g₂ : Graph} {elapsed : Float32}
    (hg : g.dirty = true ∨ g.TickReady) (hrun : Relation.ReflTransGen Ticked g g₁)
    (h : (process elapsed).run g₁ = .ok ((), g₂)) :
    ∃ s s' : Run, s.ran = [] ∧
      (∀ (q : Nat) (m : Memo), (s.memos[q]?).join = some m → m.tick < g₂.tick) ∧
      (g₂.roots.forM (Program.run g₂.program.stages g₂.tick g₂.dt)).run s = .ok ((), s') ∧
      g₂.nodes = s'.nodes ∧ g₂.program.memos = s'.memos ∧
      (∀ r ∈ g₂.roots, s'.ran.count r = 1) ∧ s'.ran.Nodup ∧
      (s'.ran.filterMap fun q => (g₂.program.stages[q]?).map Stage.node).Nodup :=
  (process_runs_roots_once (ticks_keep_ready hg hrun) h).2

end Graph

end NodeGraph
