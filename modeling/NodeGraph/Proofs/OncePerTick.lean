import NodeGraph.Proofs.PlanRuns
import NodeGraph.Proofs.Compilation

/-!
# Each stage runs at most once per tick

Two mechanisms share the work. A stage handed out twice or more keeps its result per tick and
answers later requests in the tick from it. A stage handed out once is read through one slot, and
the plan that owns the slot runs at most once and reads each slot at most once
(`Plan.compute_uses`). The run log `Run.ran` records every run, and `Program.pending` counts the
runs logged for a stage plus the slots that may still ask for it: a request uses up the slot that
made it, so the count never grows, and for a stage handed out once it starts at one
(`Program.roots_run_once`).
-/

namespace NodeGraph

namespace Program

/-- The state in which stage `i` starts to run: the run is logged. -/
def logRun (s : Run) (i : Nat) : Run := { s with ran := s.ran ++ [i] }

/-- The state after stage `st` at position `i` ran in tick `tick`: if it keeps its results, it
keeps `kept`. -/
def keep (st : Stage) (i tick : Nat) (kept : Option Value) (σ : Run) : Run :=
  if st.memoize then { σ with memos := σ.memos.set! i (some ⟨tick, kept⟩) } else σ

section Steps

variable {stages : Array Stage} {tick : Nat} {dt : Float32} {i : Nat} {st : Stage} {reads : Reads}
  {s s' : Run} {x : Option Value}

theorem typedRun_ok {t : ValueType}
    (h : (evalAt.typedRun tick dt i st reads t).run s = .ok (x, s')) :
    st.plan.output = t ∧ ∃ y σ, (st.plan.compute dt reads).run (logRun s i) = .ok (y, σ) ∧
      x = some (y.getD (zeroValue t)) ∧ s' = keep st i tick x σ := by
  unfold evalAt.typedRun at h
  by_cases hout : st.plan.output = t
  · simp only [hout, ne_eq, not_true_eq_false, if_false, StateT.run_bind, StateT.run_modify] at h
    refine ⟨hout, ?_⟩
    simp only [pure_bind] at h
    change StateT.run (st.plan.compute dt reads) (logRun s i) >>= _ = _ at h
    cases hc : StateT.run (st.plan.compute dt reads) (logRun s i) with
    | error e =>
      rw [hc] at h
      cases h
    | ok p =>
      obtain ⟨y, σ⟩ := p
      rw [hc] at h
      refine ⟨y, σ, rfl, ?_⟩
      unfold keep
      split at h
      · rename_i hm
        simp only [StateT.run_bind, StateT.run_modify, StateT.run_pure] at h
        cases h
        exact ⟨rfl, by rw [if_pos hm]⟩
      · rename_i hm
        cases h
        exact ⟨rfl, by rw [if_neg hm]⟩
  · simp only [ne_eq, hout, not_false_eq_true, if_true] at h
    cases h

theorem effectRun_ok (h : (evalAt.effectRun tick dt i st reads).run s = .ok (x, s')) :
    x = none ∧ ∃ y σ, (st.plan.compute dt reads).run (logRun s i) = .ok (y, σ) ∧
      s' = keep st i tick none σ := by
  unfold evalAt.effectRun at h
  simp only [StateT.run_bind, StateT.run_modify, pure_bind] at h
  change StateT.run (st.plan.compute dt reads) (logRun s i) >>= _ = _ at h
  cases hc : StateT.run (st.plan.compute dt reads) (logRun s i) with
  | error e =>
    rw [hc] at h
    cases h
  | ok p =>
    obtain ⟨y, σ⟩ := p
    rw [hc] at h
    unfold keep
    split at h
    · rename_i hm
      simp only [StateT.run_bind, StateT.run_modify, StateT.run_pure] at h
      cases h
      exact ⟨rfl, y, σ, rfl, by rw [if_pos hm]⟩
    · rename_i hm
      cases h
      exact ⟨rfl, y, σ, rfl, by rw [if_neg hm]⟩

/-- The readers a stage is run with. -/
abbrev readsOf (stages : Array Stage) (tick : Nat) (dt : Float32) (i : Nat) (st : Stage) : Reads :=
  stageReads i st fun j _ t => evalAt stages tick dt j (.typed t)

theorem evalAt_typed_ok {t : ValueType}
    (h : (evalAt stages tick dt i (.typed t)).run s = .ok (x, s')) :
    (s' = s ∧ (∀ v ∈ x, v.type = t) ∧ ∀ st, stages[i]? = some st →
      ∃ m, (s.memos[i]?).join = some m ∧ m.tick = tick) ∨
    ∃ st, stages[i]? = some st ∧
      (∀ m, (s.memos[i]?).join = some m → m.tick = tick → ∀ v, m.value = some v → v.type ≠ t) ∧
      st.plan.output = t ∧ ∃ y σ,
        (st.plan.compute dt (readsOf stages tick dt i st)).run (logRun s i) = .ok (y, σ) ∧
        x = some (y.getD (zeroValue t)) ∧ s' = keep st i tick x σ := by
  rw [evalAt] at h
  split at h
  · cases h
    exact .inl ⟨rfl, by simp, fun _ h => by simp_all⟩
  rename_i st hst
  simp only [StateT.run_bind, StateT.run_get, pure_bind] at h
  -- a request that the kept result cannot answer runs the stage
  have hmiss : (evalAt.typedRun tick dt i st (readsOf stages tick dt i st) t).run s = .ok (x, s') →
      (∀ m, (s.memos[i]?).join = some m → m.tick = tick → ∀ v, m.value = some v → v.type ≠ t) →
      ∃ st, stages[i]? = some st ∧
        (∀ m, (s.memos[i]?).join = some m → m.tick = tick → ∀ v, m.value = some v → v.type ≠ t) ∧
        st.plan.output = t ∧ ∃ y σ, (st.plan.compute dt (readsOf stages tick dt i st)).run
          (logRun s i) = .ok (y, σ) ∧ x = some (y.getD (zeroValue t)) ∧ s' = keep st i tick x σ :=
    fun h hm => ⟨st, hst, hm, typedRun_ok h⟩
  split at h
  · rename_i mt v hmemo
    split at h
    · rename_i hhit
      cases h
      exact .inl ⟨rfl, by simpa using hhit.2, fun _ _ => ⟨_, hmemo, hhit.1⟩⟩
    · rename_i hne
      refine .inr (hmiss h fun m hm hmt v' hv' hty => hne ⟨?_, ?_⟩)
      · rw [hmemo] at hm
        cases hm
        exact hmt
      · rw [hmemo] at hm
        cases hm
        cases hv'
        exact hty
  · rename_i hnot
    refine .inr (hmiss h fun m hm _ v hv _ => ?_)
    obtain ⟨mt, mv⟩ := m
    cases hv
    exact hnot mt v hm

theorem evalAt_effect_ok (h : (evalAt stages tick dt i .effect).run s = .ok (x, s')) :
    x = none ∧ ((s' = s ∧ ∀ st, stages[i]? = some st →
      ∃ m, (s.memos[i]?).join = some m ∧ m.tick = tick) ∨
    ∃ st, stages[i]? = some st ∧ (∀ m, (s.memos[i]?).join = some m → m.tick ≠ tick) ∧
      ∃ y σ, (st.plan.compute dt (readsOf stages tick dt i st)).run (logRun s i) = .ok (y, σ) ∧
        s' = keep st i tick none σ) := by
  rw [evalAt] at h
  split at h
  · cases h
    exact ⟨rfl, .inl ⟨rfl, fun _ h => by simp_all⟩⟩
  rename_i st hst
  simp only [StateT.run_bind, StateT.run_get, pure_bind] at h
  split at h
  · rename_i m hmemo
    split at h
    · rename_i hhit
      cases h
      exact ⟨rfl, .inl ⟨rfl, fun _ _ => ⟨m, hmemo, hhit⟩⟩⟩
    · rename_i hne
      obtain ⟨hx, y, σ, hc, hs'⟩ := effectRun_ok h
      exact ⟨hx, .inr ⟨st, hst, fun m' hm => (by rw [hmemo] at hm; cases hm; exact hne),
        y, σ, hc, hs'⟩⟩
  · rename_i hmemo
    obtain ⟨hx, y, σ, hc, hs'⟩ := effectRun_ok h
    exact ⟨hx, .inr ⟨st, hst, fun m' hm => by simp [hmemo] at hm, y, σ, hc, hs'⟩⟩

end Steps

theorem type_getD_zeroValue {v : Option Value} {t : ValueType} (hv : ∀ w ∈ v, w.type = t)
    (ht : t.HasValues) : (v.getD (zeroValue t)).type = t := by
  cases v with
  | none => exact type_zeroValue ht
  | some w => exact hv w rfl

/-- The readers of a stage read each slot once when each request they make for an earlier stage
does: they ask for nothing else. -/
theorem stageReads_once {i : Nat} {st : Stage}
    {eval : (j : Nat) → j < i → ValueType → EvalM (Option Value)} {Φ : List Nat → Run → Prop}
    {n : Option NodeId}
    (hcall : ∀ used k j t (hj : j < i), k ∉ used → (st.inputs[k]?).join = some j → t.HasValues →
      EvalM.Triple (Φ used) (eval j hj t) fun v σ => Φ (k :: used) σ ∧ ∀ w ∈ v, w.type = t)
    (hskip : ∀ used k σ, k ∉ used → Φ used σ → Φ (k :: used) σ)
    (hsteps : ∀ used σ σ', Run.Steps n σ σ' → Φ used σ → Φ used σ') :
    Reads.Once Φ (stageReads i st eval) n := by
  refine ⟨fun used k t hk ht => ?_, fun used k t hk ht => ?_, hsteps⟩
  all_goals
    simp only [stageReads]
    split
    · rename_i j hj
      split
      · rename_i hji
        refine EvalM.Triple.bind (hcall used k j t hji hk hj ht) fun v => EvalM.Triple.pure ?_
        intro σ ⟨hσ, hv⟩
        first
          | exact ⟨hσ, type_getD_zeroValue hv ht⟩
          | exact ⟨hσ, fun w hw => by cases hw; exact type_getD_zeroValue hv ht⟩
      · refine EvalM.Triple.pure fun σ hσ => ⟨hskip used k σ hk hσ, ?_⟩
        first | exact type_zeroValue ht | simp
    · refine EvalM.Triple.pure fun σ hσ => ⟨hskip used k σ hk hσ, ?_⟩
      first | exact type_zeroValue ht | simp

/-- What evaluation needs of a program's stages, all of which a compilation gives: each plan is
well formed, the node a plan reads a constant of or keeps state in is its stage's node, and no two
stages have the same node. -/
structure Compiled (stages : Array Stage) : Prop where
  wellFormed : ∀ (i : Nat) (st : Stage), stages[i]? = some st → st.plan.WellFormed
  stateNode : ∀ (i : Nat) (st : Stage) (x : NodeId), stages[i]? = some st →
    st.plan.stateNode? = some x → x = st.node
  constantNode : ∀ (i : Nat) (st : Stage) (node : NodeId) (t : ValueType), stages[i]? = some st →
    st.plan = .constant node t → node = st.node
  injective : ∀ (i j : Nat) (st st' : Stage), stages[i]? = some st → stages[j]? = some st' →
    st.node = st'.node → i = j

/-- In state `s`, the node of every constant stage holds a constant of the type the stage gives. -/
def ConstantsFit (stages : Array Stage) (s : Run) : Prop :=
  ∀ (i : Nat) (st : Stage) (node : NodeId) (t : ValueType), stages[i]? = some st →
    st.plan = .constant node t → s.ConstantFits node t

/-- From `s` to `s'` only stages below `n` ran, and only they kept results. -/
structure Below (n : Nat) (s s' : Run) : Prop where
  ran : ∃ L, s'.ran = s.ran ++ L ∧ ∀ q ∈ L, q < n
  memos : ∀ q, n ≤ q → s'.memos[q]? = s.memos[q]?
  size : s'.memos.size = s.memos.size

section Frame

variable {stages : Array Stage} {tick : Nat}

@[simp] theorem keep_ran (st : Stage) (i : Nat) (kept : Option Value) (σ : Run) :
    (keep st i tick kept σ).ran = σ.ran := by
  unfold keep
  split <;> rfl

@[simp] theorem keep_nodes (st : Stage) (i : Nat) (kept : Option Value) (σ : Run) :
    (keep st i tick kept σ).nodes = σ.nodes := by
  unfold keep
  split <;> rfl

@[simp] theorem keep_size (st : Stage) (i : Nat) (kept : Option Value) (σ : Run) :
    (keep st i tick kept σ).memos.size = σ.memos.size := by
  unfold keep
  split <;> simp

theorem keep_memos_ne (st : Stage) {i q : Nat} (kept : Option Value) (σ : Run) (h : q ≠ i) :
    (keep st i tick kept σ).memos[q]? = σ.memos[q]? := by
  unfold keep
  split
  · simp [Ne.symm h]
  · rfl

theorem keep_memos_self {st : Stage} {i : Nat} (kept : Option Value) {σ : Run}
    (hm : st.memoize = true) (hi : i < σ.memos.size) :
    (keep st i tick kept σ).memos[i]? = some (some ⟨tick, kept⟩) := by
  simp [keep, hm, hi]

theorem Below.refl (n : Nat) (s : Run) : Below n s s :=
  ⟨⟨[], by simp, by simp⟩, fun _ _ => rfl, rfl⟩

theorem Below.trans {n m : Nat} {s σ σ' : Run} (h₁ : Below n s σ) (h₂ : Below m σ σ') (hm : m ≤ n) :
    Below n s σ' := by
  obtain ⟨L₁, h₁r, h₁L⟩ := h₁.ran
  obtain ⟨L₂, h₂r, h₂L⟩ := h₂.ran
  refine ⟨⟨L₁ ++ L₂, by rw [h₂r, h₁r, List.append_assoc], fun q hq => ?_⟩, fun q hq => ?_, ?_⟩
  · rcases List.mem_append.mp hq with hq | hq
    · exact h₁L q hq
    · exact Nat.lt_of_lt_of_le (h₂L q hq) hm
  · rw [h₂.memos q (Nat.le_trans hm hq), h₁.memos q hq]
  · rw [h₂.size, h₁.size]

theorem Below.of_steps {n : Nat} {x : Option NodeId} {s s' : Run} (h : Run.Steps x s s') :
    Below n s s' :=
  ⟨⟨[], by simp [h.ran], by simp⟩, fun _ _ => by rw [h.memos], by rw [h.memos]⟩

theorem below_logRun (i : Nat) (s : Run) : Below (i + 1) s (logRun s i) :=
  ⟨⟨[i], rfl, by simp⟩, fun _ _ => rfl, rfl⟩

theorem below_keep (st : Stage) (i : Nat) (kept : Option Value) (σ : Run) :
    Below (i + 1) σ (keep st i tick kept σ) :=
  ⟨⟨[], by simp, by simp⟩, fun _ hq => keep_memos_ne st kept σ (by omega), keep_size ..⟩

theorem Below.mem_ran {n : Nat} {s s' : Run} (h : Below n s s') {q : Nat} (hq : q ∈ s.ran) :
    q ∈ s'.ran := by
  obtain ⟨L, hr, -⟩ := h.ran
  rw [hr]
  exact List.mem_append_left _ hq

theorem Below.mem_ran_of_le {n : Nat} {s s' : Run} (h : Below n s s') {q : Nat} (hq : q ∈ s'.ran)
    (hle : n ≤ q) : q ∈ s.ran := by
  obtain ⟨L, hr, hL⟩ := h.ran
  rw [hr] at hq
  rcases List.mem_append.mp hq with hq | hq
  · exact hq
  · exact absurd (hL q hq) (Nat.not_lt.mpr hle)

theorem Below.count_ran {n : Nat} {s s' : Run} (h : Below n s s') {q : Nat} (hle : n ≤ q) :
    s'.ran.count q = s.ran.count q := by
  obtain ⟨L, hr, hL⟩ := h.ran
  have hq : q ∉ L := fun hq => absurd (hL q hq) (Nat.not_lt.mpr hle)
  rw [hr, List.count_append, List.count_eq_zero.mpr hq, Nat.add_zero]

end Frame

section Typing

variable {stages : Array Stage} {tick : Nat} {dt : Float32}

theorem ConstantsFit.of_nodes {s s' : Run} (h : ConstantsFit stages s) (hn : s'.nodes = s.nodes) :
    ConstantsFit stages s' := by
  intro i st node t hst hp
  simpa only [Run.ConstantFits, Run.kindOf, hn] using h i st node t hst hp

theorem ConstantsFit.steps (hc : Compiled stages) {i : Nat} {st : Stage}
    (hst : stages[i]? = some st) {s s' : Run} (h : Run.Steps st.plan.stateNode? s s')
    (hf : ConstantsFit stages s) :
    ConstantsFit stages s' := by
  intro j sj node t hsj hp
  have hne : st.plan.stateNode? ≠ some node := by
    intro hx
    have hij := hc.injective i j st sj hst hsj
      ((hc.stateNode i st node hst hx).symm.trans (hc.constantNode j sj node t hsj hp))
    subst hij
    rw [hst] at hsj
    cases hsj
    simp [hp, Plan.stateNode?] at hx
  unfold Run.ConstantFits
  rw [h.kinds node hne]
  exact hf j sj node t hsj hp

/-- What evaluating stage `i` keeps true, from any state in which the constants fit: they still
fit, only stages up to `i` ran, and a request for a type with values is answered with a value of
that type. -/
def Framed (stages : Array Stage) (tick : Nat) (dt : Float32) (i : Nat) : Prop :=
  ∀ (w : Want) (s s' : Run) (x : Option Value), ConstantsFit stages s →
    (evalAt stages tick dt i w).run s = .ok (x, s') →
    ConstantsFit stages s' ∧ Below (i + 1) s s' ∧
      ∀ t, w = .typed t → t.HasValues → ∀ v ∈ x, v.type = t

/-- A run of the plan of stage `i`, whose requests for earlier stages keep their frames: the
constants still fit, only stages below `i` ran, and the result has the plan's type. -/
theorem compute_frame (hc : Compiled stages) {i : Nat} {st : Stage} (hst : stages[i]? = some st)
    (ih : ∀ j < i, Framed stages tick dt j) {s σ : Run} {y : Option Value}
    (hs : ConstantsFit stages s)
    (hrun : (st.plan.compute dt (readsOf stages tick dt i st)).run (logRun s i) = .ok (y, σ)) :
    ConstantsFit stages σ ∧ Below i (logRun s i) σ ∧ ∀ v ∈ y, v.type = st.plan.output := by
  have hreads : Reads.Once (fun _ σ => ConstantsFit stages σ ∧ Below i (logRun s i) σ)
      (readsOf stages tick dt i st) st.plan.stateNode? := by
    refine stageReads_once (fun _ _ j t hj _ _ htv σ hσ v σ' h => ?_) (fun _ _ _ _ h => h)
      fun _ _ _ h hσ => ⟨hσ.1.steps hc hst h, hσ.2.trans (Below.of_steps h) (Nat.le_refl i)⟩
    obtain ⟨hf, hB, hty⟩ := ih j hj (.typed t) σ σ' v hσ.1 h
    exact ⟨⟨hf, hσ.2.trans hB hj⟩, hty t rfl htv⟩
  obtain ⟨⟨_, hσ, hB⟩, hy⟩ := (Plan.compute_uses st.plan (hc.wellFormed i st hst) hreads
    (fun node t hp _ s hs => hs.1 i st node t hst hp) dt).run
    (show ConstantsFit stages (logRun s i) ∧ Below i (logRun s i) (logRun s i) from
      ⟨hs.of_nodes rfl, Below.refl i _⟩) hrun
  exact ⟨hσ, hB, hy⟩

/-- Every evaluation keeps its frame; by induction on the stage's position. -/
theorem evalAt_frame (hc : Compiled stages) (i : Nat) : Framed stages tick dt i := by
  induction i using Nat.strongRecOn with
  | ind i ih =>
    intro w s s' x hs h
    cases w with
    | typed t =>
      rcases evalAt_typed_ok h with ⟨rfl, hx, -⟩ | ⟨st, hst, -, hout, y, σ, hrun, rfl, rfl⟩
      · exact ⟨hs, Below.refl _ _, fun _ ht _ => by cases ht; exact hx⟩
      · obtain ⟨hσ, hB, hy⟩ := compute_frame hc hst ih hs hrun
        refine ⟨hσ.of_nodes (keep_nodes ..),
          ((below_logRun i s).trans hB (Nat.le_succ i)).trans (below_keep ..) (Nat.le_refl _),
          fun t' ht' hv v hvx => ?_⟩
        cases ht'
        cases hvx
        exact type_getD_zeroValue (hout ▸ hy) hv
    | effect =>
      obtain ⟨rfl, ⟨rfl, -⟩ | ⟨st, hst, -, y, σ, hrun, rfl⟩⟩ := evalAt_effect_ok h
      · exact ⟨hs, Below.refl _ _, fun _ ht => nomatch ht⟩
      · obtain ⟨hσ, hB, -⟩ := compute_frame hc hst ih hs hrun
        exact ⟨hσ.of_nodes (keep_nodes ..),
          ((below_logRun i s).trans hB (Nat.le_succ i)).trans (below_keep ..) (Nat.le_refl _),
          fun _ ht => nomatch ht⟩

end Typing

/-! ## Counting runs -/

/-- The slots of `st` outside `used` that hold stage `m`. -/
def unread (st : Stage) (used : List Nat) (m : Nat) : Nat :=
  sumOutside (List.range st.inputs.length) used fun k =>
    if st.inputs[k]? = some (some m) then 1 else 0

theorem count_eq_sum_range (l : List (Option Nat)) (a : Option Nat) :
    ((List.range l.length).map fun k => if l[k]? = some a then 1 else 0).sum = l.count a := by
  induction l with
  | nil => rfl
  | cons b l ih =>
    rw [List.length_cons, List.range_succ_eq_map, List.map_cons, List.map_map, List.sum_cons,
      List.count_cons, ← ih]
    simp only [Function.comp_def, List.getElem?_cons_succ, List.getElem?_cons_zero,
      Option.some.injEq, beq_iff_eq]
    omega

theorem unread_nil (st : Stage) (m : Nat) : unread st [] m = st.inputs.count (some m) := by
  simpa [unread, sumOutside] using count_eq_sum_range st.inputs (some m)

theorem unread_cons {st : Stage} {used : List Nat} {k j : Nat} (hk : k ∉ used)
    (hj : (st.inputs[k]?).join = some j) (m : Nat) :
    unread st (k :: used) m + (if m = j then 1 else 0) = unread st used m := by
  have hkj : st.inputs[k]? = some (some j) := by
    cases h : st.inputs[k]? with
    | none => simp [h] at hj
    | some o => simp_all
  have hlt : k < st.inputs.length := (List.getElem?_eq_some_iff.mp hkj).1
  have := sumOutside_cons_skip (f := fun k => if st.inputs[k]? = some (some m) then 1 else 0)
    List.nodup_range (List.mem_range.mpr hlt) hk
  simp only [hkj, Option.some.injEq] at this
  by_cases hm : m = j
  · subst hm
    simpa [unread] using this
  · simpa [unread, hm, Ne.symm hm] using this

theorem unread_cons_le (st : Stage) (used : List Nat) (k m : Nat) :
    unread st (k :: used) m ≤ unread st used m :=
  sumOutside_cons_le k

variable (stages : Array Stage) (tick : Nat)

/-- The runs logged for stage `m`, and the slots that may still ask for it: those of the stages
that have not run. -/
def pending (s : Run) (m : Nat) : Nat := s.ran.count m + slotRefs stages s.ran m

/-- A stage that keeps no results. -/
def Single (m : Nat) : Prop := ∃ st, stages[m]? = some st ∧ st.memoize = false

/-- What an evaluation keeps true, for the stages below `n` where it matters: the log lists each
stage once; a stage that keeps its results and ran has kept, for this tick, what answers its next
request; a stage that did not run kept nothing for this tick; the constants fit; and there is a
place to keep a result for every stage. -/
structure Ready (n : Nat) (s : Run) : Prop where
  nodup : s.ran.Nodup
  kept : ∀ (q : Nat) (st : Stage), q < n → stages[q]? = some st → st.memoize = true → q ∈ s.ran →
    ∃ m, (s.memos[q]?).join = some m ∧ m.tick = tick ∧
      (st.plan.output ≠ .none → ∃ v, m.value = some v ∧ v.type = st.plan.output)
  fresh : ∀ q, q ∉ s.ran → ∀ m, (s.memos[q]?).join = some m → m.tick ≠ tick
  fits : ConstantsFit stages s
  sized : stages.size ≤ s.memos.size

/-- A request that suits its stage: a value of a type with values, or the effect of a stage that
produces nothing. -/
def WantOk (i : Nat) (w : Want) : Prop :=
  ∀ st, stages[i]? = some st → (w = .effect → st.plan.output = .none) ∧
    ∀ t, w = .typed t → t.HasValues

section Pending

variable {stages : Array Stage} {tick : Nat}

theorem pending_logRun {s : Run} {i : Nat} {st : Stage} (hst : stages[i]? = some st)
    (hi : i ∉ s.ran) (m : Nat) :
    pending stages (logRun s i) m + st.inputs.count (some m) =
      pending stages s m + if m = i then 1 else 0 := by
  have hlt : i < stages.size := (Array.getElem?_eq_some_iff.mp hst).1
  have hskip := sumOutside_cons_skip
    (f := fun r => ((stages[r]?).map fun st => st.inputs.count (some m)).getD 0)
    List.nodup_range (List.mem_range.mpr hlt) hi
  have hcongr : slotRefs stages (s.ran ++ [i]) m = slotRefs stages (i :: s.ran) m :=
    sumOutside_congr fun r => by simp [or_comm]
  simp only [hst, Option.map_some, Option.getD_some] at hskip
  simp only [pending, logRun, List.count_append, List.count_singleton, hcongr]
  unfold slotRefs
  by_cases hm : m = i
  · subst hm
    simp only [beq_self_eq_true, if_true]
    omega
  · simp only [if_neg hm, beq_iff_eq, if_neg (Ne.symm hm)]
    omega

theorem pending_of_ran {s s' : Run} (h : s'.ran = s.ran) (m : Nat) :
    pending stages s' m = pending stages s m := by
  simp only [pending, h]

end Pending

section Once

variable {stages : Array Stage} {tick : Nat} {dt : Float32}

theorem Ready.steps (hc : Compiled stages) {i n : Nat} {st : Stage} (hst : stages[i]? = some st)
    {σ σ' : Run} (h : Run.Steps st.plan.stateNode? σ σ') (hr : Ready stages tick n σ) :
    Ready stages tick n σ' := by
  refine ⟨?_, fun q st' hq hst' hm hqr => ?_, fun q hq m hm => ?_, hr.fits.steps hc hst h, ?_⟩
  · rw [h.ran]
    exact hr.nodup
  · rw [h.memos]
    exact hr.kept q st' hq hst' hm (h.ran ▸ hqr)
  · rw [h.memos] at hm
    exact hr.fresh q (h.ran ▸ hq) m hm
  · rw [h.memos]
    exact hr.sized

theorem Ready.logRun {n i : Nat} {s : Run} (hr : Ready stages tick n s) (hin : i < n)
    (hi : i ∉ s.ran) : Ready stages tick i (logRun s i) := by
  refine ⟨?_, fun q st hq hst hm hqr => ?_, fun q hq m hm => ?_, hr.fits.of_nodes rfl, hr.sized⟩
  · simp only [Program.logRun, List.nodup_append, List.nodup_cons, List.not_mem_nil,
      not_false_eq_true, List.nodup_nil, and_self, List.mem_singleton, true_and]
    refine ⟨hr.nodup, ?_⟩
    intro a ha b hb hab
    subst hb hab
    exact hi ha
  · have hq' : q ∈ s.ran := by
      simpa [Program.logRun, Nat.ne_of_lt hq] using hqr
    exact hr.kept q st (Nat.lt_trans hq hin) hst hm hq'
  · exact hr.fresh q (fun h => hq (List.mem_append_left _ h)) m hm

theorem keep_ready {n i : Nat} {st : Stage} (hst : stages[i]? = some st) (hin : i < n)
    {s σ : Run} {kept : Option Value} (hs : Ready stages tick n s) (hσ : Ready stages tick i σ)
    (hiσ : i ∈ σ.ran) (hb : Below (i + 1) s σ)
    (hkept : st.plan.output ≠ .none → ∃ v, kept = some v ∧ v.type = st.plan.output) :
    Ready stages tick n (keep st i tick kept σ) := by
  have hlt : i < stages.size := (Array.getElem?_eq_some_iff.mp hst).1
  refine ⟨by simpa using hσ.nodup, fun q sq hq hsq hm hqr => ?_, fun q hq m hm => ?_,
    hσ.fits.of_nodes (keep_nodes ..), by simpa [hb.size] using hs.sized⟩
  · rw [keep_ran] at hqr
    rcases Nat.lt_trichotomy q i with hqi | rfl | hqi
    · rw [keep_memos_ne st kept σ (Nat.ne_of_lt hqi)]
      exact hσ.kept q sq hqi hsq hm hqr
    · -- the stage itself keeps what it just produced
      rw [hst] at hsq
      cases hsq
      rw [keep_memos_self kept hm (by rw [hb.size]; exact Nat.lt_of_lt_of_le hlt hs.sized)]
      refine ⟨⟨tick, kept⟩, rfl, rfl, fun hne => ?_⟩
      exact hkept hne
    · rw [keep_memos_ne st kept σ (Nat.ne_of_gt hqi), hb.memos q hqi]
      exact hs.kept q sq hq hsq hm (hb.mem_ran_of_le hqr hqi)
  · rw [keep_ran] at hq
    have hqi : q ≠ i := fun h => hq (h ▸ hiσ)
    rw [keep_memos_ne st kept σ hqi] at hm
    exact hσ.fresh q hq m hm

/-- What one request for stage `i` does, from a state ready below some `n > i` whose counts leave
room for the request at every stage that keeps no results: the state stays ready, no count grows
but stage `i`'s by this request, and stage `i`, if there is one, has run. -/
def RequestOnce (stages : Array Stage) (tick : Nat) (dt : Float32) (i : Nat) : Prop :=
  ∀ (w : Want) (n : Nat) (s s' : Run) (x : Option Value), i < n → WantOk stages i w →
    Ready stages tick n s →
    (∀ m, Single stages m → pending stages s m + (if m = i then 1 else 0) ≤ 1) →
    (evalAt stages tick dt i w).run s = .ok (x, s') →
    Ready stages tick n s' ∧
    (∀ m, Single stages m → pending stages s' m ≤ pending stages s m + if m = i then 1 else 0) ∧
    (i < stages.size → i ∈ s'.ran)

/-- One run of stage `i`, which has not run: its plan asks each earlier stage through a slot at
most once, so the counts of the stages it reads trade their slots for their requests. -/
theorem compute_once (hc : Compiled stages) {i n : Nat} {st : Stage} (hst : stages[i]? = some st)
    (ih : ∀ j < i, RequestOnce stages tick dt j) (hin : i < n) {s σ : Run} {y : Option Value}
    (hready : Ready stages tick n s) (hi : i ∉ s.ran)
    (hbudget : ∀ m, Single stages m → pending stages s m + (if m = i then 1 else 0) ≤ 1)
    (hrun : (st.plan.compute dt (readsOf stages tick dt i st)).run (logRun s i) = .ok (y, σ)) :
    Ready stages tick i σ ∧ i ∈ σ.ran ∧ Below (i + 1) s σ ∧
      (∀ m, Single stages m → pending stages σ m ≤ pending stages s m + if m = i then 1 else 0) ∧
      ∀ v ∈ y, v.type = st.plan.output := by
  -- the states of the run, indexed by the slots read so far
  let Φ : List Nat → Run → Prop := fun used σ =>
    Ready stages tick i σ ∧ i ∈ σ.ran ∧ Below (i + 1) s σ ∧ ∀ m, Single stages m →
      pending stages σ m + unread st used m ≤ pending stages s m + if m = i then 1 else 0
  have hreads : Reads.Once Φ (readsOf stages tick dt i st) st.plan.stateNode? := by
    refine stageReads_once (fun used k j t hj hk hkj htv σ hσ v σ' h => ?_)
      (fun used k σ hk hσ => ?_) fun used σ σ' h hσ => ?_
    · obtain ⟨hR, hiσ, hB, hbud⟩ := hσ
      have hwant : WantOk stages j (.typed t) := fun _ _ => ⟨(fun h => nomatch h), fun _ ht => by
        cases ht; exact htv⟩
      -- the slot read is one of those still counted for `j`
      have hroom : ∀ m, Single stages m → pending stages σ m + (if m = j then 1 else 0) ≤ 1 := by
        intro m hm
        have h1 := hbud m hm
        have h2 := hbudget m hm
        have h3 := unread_cons hk hkj m
        omega
      obtain ⟨hR', hpend, -⟩ := ih j hj (.typed t) i σ σ' v hj hwant hR hroom h
      obtain ⟨-, hB', hty⟩ := evalAt_frame hc j (.typed t) σ σ' v hR.fits h
      refine ⟨⟨hR', hB'.mem_ran hiσ, hB.trans hB' (Nat.le_succ_of_le hj), fun m hm => ?_⟩,
        hty t rfl htv⟩
      have h1 := hbud m hm
      have h2 := hpend m hm
      have h3 := unread_cons hk hkj m
      omega
    · obtain ⟨hR, hiσ, hB, hbud⟩ := hσ
      exact ⟨hR, hiσ, hB, fun m hm => Nat.le_trans
        (Nat.add_le_add_left (unread_cons_le st used k m) _) (hbud m hm)⟩
    · obtain ⟨hR, hiσ, hB, hbud⟩ := hσ
      refine ⟨hR.steps hc hst h, h.ran ▸ hiσ, hB.trans (Below.of_steps h) (Nat.le_refl _),
        fun m hm => ?_⟩
      rw [pending_of_ran h.ran]
      exact hbud m hm
  have hstart : Φ [] (logRun s i) := by
    refine ⟨hready.logRun hin hi, by simp [logRun], below_logRun i s, fun m _ => ?_⟩
    rw [unread_nil]
    exact Nat.le_of_eq (pending_logRun hst hi m)
  obtain ⟨⟨used, hR, hiσ, hB, hbud⟩, hy⟩ :=
    (Plan.compute_uses st.plan (hc.wellFormed i st hst) hreads
      (fun node t hp _ σ hσ => hσ.1.fits i st node t hst hp) dt).run hstart hrun
  exact ⟨hR, hiσ, hB, fun m hm => Nat.le_trans (Nat.le_add_right _ _) (hbud m hm), hy⟩

theorem not_ran_of_single {s : Run} {i : Nat}
    (hbudget : ∀ m, Single stages m → pending stages s m + (if m = i then 1 else 0) ≤ 1)
    (hsingle : Single stages i) : i ∉ s.ran := by
  have h := hbudget i hsingle
  simp only [pending, if_true] at h
  intro hi
  have := List.count_pos_iff.mpr hi
  omega

theorem evalAt_once (hc : Compiled stages) (i : Nat) : RequestOnce stages tick dt i := by
  induction i using Nat.strongRecOn with
  | ind i ih =>
    intro w n s s' x hin hw hready hbudget h
    -- an answer from the kept result: nothing changes, and the stage has run in this tick
    have hhit : (∀ st, stages[i]? = some st → ∃ m, (s.memos[i]?).join = some m ∧ m.tick = tick) →
        i < stages.size → i ∈ s.ran := fun hkept hlt => by
      obtain ⟨m, hm, hmt⟩ := hkept _ (Array.getElem?_eq_getElem hlt)
      exact Classical.byContradiction fun hni => hready.fresh i hni m hm hmt
    -- a run: the stage had not run, and the state after keeping its result is ready
    have hrun : ∀ (st : Stage) (σ : Run) (y kept : Option Value), stages[i]? = some st →
        i ∉ s.ran → (st.plan.compute dt (readsOf stages tick dt i st)).run (logRun s i) =
          .ok (y, σ) →
        ((∀ v ∈ y, v.type = st.plan.output) → st.plan.output ≠ .none →
          ∃ v, kept = some v ∧ v.type = st.plan.output) →
        Ready stages tick n (keep st i tick kept σ) ∧
        (∀ m, Single stages m → pending stages (keep st i tick kept σ) m ≤
          pending stages s m + if m = i then 1 else 0) ∧
        (i < stages.size → i ∈ (keep st i tick kept σ).ran) := by
      intro st σ y kept hst hi hc' hkept
      obtain ⟨hR, hiσ, hB, hpend, hy⟩ := compute_once hc hst ih hin hready hi hbudget hc'
      refine ⟨keep_ready hst hin hready hR hiσ hB (hkept hy), fun m hm => ?_,
        fun _ => by simpa using hiσ⟩
      rw [pending_of_ran (keep_ran st i kept σ)]
      exact hpend m hm
    cases w with
    | typed t =>
      rcases evalAt_typed_ok h with ⟨rfl, -, hkept⟩ | ⟨st, hst, hmiss, hout, y, σ, hc', rfl, rfl⟩
      · exact ⟨hready, fun m _ => Nat.le_add_right _ _, hhit hkept⟩
      · have htv := (hw st hst).2 t rfl
        have hnone : st.plan.output ≠ .none := by
          rw [hout]
          rintro rfl
          exact absurd htv (by decide)
        -- a stage that keeps its results and ran would have answered from them
        have hi : i ∉ s.ran := by
          cases hm : st.memoize
          · exact not_ran_of_single hbudget ⟨st, hst, hm⟩
          · intro hir
            obtain ⟨m, hmem, hmt, hval⟩ := hready.kept i st hin hst hm hir
            obtain ⟨v, hv, hvt⟩ := hval hnone
            exact hmiss m hmem hmt v hv (hvt.trans hout)
        refine hrun st σ y _ hst hi hc' fun hy _ => ⟨_, rfl, ?_⟩
        exact (type_getD_zeroValue (fun v hv => (hy v hv).trans hout) htv).trans hout.symm
    | effect =>
      obtain ⟨rfl, ⟨rfl, hkept⟩ | ⟨st, hst, hmiss, y, σ, hc', rfl⟩⟩ := evalAt_effect_ok h
      · exact ⟨hready, fun m _ => Nat.le_add_right _ _, hhit hkept⟩
      · have hvoid := (hw st hst).1 rfl
        have hi : i ∉ s.ran := by
          cases hm : st.memoize
          · exact not_ran_of_single hbudget ⟨st, hst, hm⟩
          · intro hir
            obtain ⟨m, hmem, hmt, -⟩ := hready.kept i st hin hst hm hir
            exact hmiss m hmem hmt
        exact hrun st σ y none hst hi hc' fun _ hne => absurd hvoid hne

end Once

/-! ## Running the roots -/

section Roots

variable {stages : Array Stage} {tick : Nat} {dt : Float32}

/-- A call of `evalValue` is a request for the stage that suits it: for its effect when it produces
nothing, for its own type otherwise. -/
theorem evalValue_request (hc : Compiled stages) {i : Nat} {s s' : Run} {x : Option Value}
    (h : (evalValue stages tick dt i).run s = .ok (x, s')) :
    ∃ w, WantOk stages i w ∧ (evalAt stages tick dt i w).run s = .ok (x, s') := by
  unfold evalValue at h
  split at h
  · rename_i hnone
    refine ⟨.effect, fun st hst => by simp [hnone] at hst, ?_⟩
    rw [evalAt]
    simp only [hnone]
    exact h
  · rename_i st hst
    split at h
    · rename_i hvoid
      obtain ⟨y, σ, hy, hσ⟩ := EvalM.run_bind_ok h
      cases hσ
      refine ⟨.effect, fun st' hst' => ?_, by rw [← (evalAt_effect_ok hy).1]; exact hy⟩
      rw [hst] at hst'
      cases hst'
      exact ⟨(fun _ => by simpa [Plan.isVoid] using hvoid), (fun _ ht => by cases ht)⟩
    · rename_i hvoid
      refine ⟨.typed st.plan.output, fun st' hst' => ?_, h⟩
      rw [hst] at hst'
      cases hst'
      refine ⟨(fun h => by cases h), fun t ht => ?_⟩
      cases ht
      exact Plan.hasValues_output (hc.wellFormed i st hst) (by simpa [Plan.isVoid] using hvoid)

theorem run_once (hc : Compiled stages) {i n : Nat} {s s' : Run} (hin : i < n)
    (hready : Ready stages tick n s)
    (hbudget : ∀ m, Single stages m → pending stages s m + (if m = i then 1 else 0) ≤ 1)
    (h : (run stages tick dt i).run s = .ok ((), s')) :
    Ready stages tick n s' ∧
      (∀ m, Single stages m → pending stages s' m ≤ pending stages s m + if m = i then 1 else 0) ∧
      Below (i + 1) s s' ∧ (i < stages.size → i ∈ s'.ran) := by
  unfold run at h
  obtain ⟨x, σ, hx, hσ⟩ := EvalM.run_bind_ok h
  cases hσ
  obtain ⟨w, hw, hrun⟩ := evalValue_request hc hx
  obtain ⟨hR, hpend, hi⟩ := evalAt_once hc i w n s _ x hin hw hready hbudget hrun
  exact ⟨hR, hpend, (evalAt_frame hc i w s _ x hready.fits hrun).2.1, hi⟩

/-- Running the roots one after another, from a state ready for every stage whose counts leave
each stage that keeps no results room for the roots still to run: every stage runs at most once and
every root runs; by induction on the roots. -/
theorem roots_once (hc : Compiled stages) (roots : List Nat)
    (hroots : ∀ r ∈ roots, r < stages.size) :
    ∀ s s', Ready stages tick stages.size s →
      (∀ m, Single stages m → pending stages s m + roots.count m ≤ 1) →
      (roots.forM (run stages tick dt)).run s = .ok ((), s') →
      Ready stages tick stages.size s' ∧ (∀ q ∈ s.ran, q ∈ s'.ran) ∧ ∀ r ∈ roots, r ∈ s'.ran := by
  induction roots with
  | nil =>
    intro s s' hready _ h
    cases h
    exact ⟨hready, fun _ hq => hq, fun _ hr => nomatch hr⟩
  | cons r rest ih =>
    intro s s' hready hbudget h
    rw [List.forM_eq_forM, List.forM_cons] at h
    obtain ⟨_, σ, hr, hrest⟩ := EvalM.run_bind_ok h
    have hlt := hroots r List.mem_cons_self
    have hcount : ∀ m, (r :: rest).count m = rest.count m + if m = r then 1 else 0 := fun m => by
      rw [List.count_cons]
      by_cases hm : m = r <;> simp [hm, Ne.symm]
    -- the root's run uses one of the requests counted for it
    obtain ⟨hR, hpend, hB, hran⟩ := run_once hc hlt hready (fun m hm => by
      have h1 := hbudget m hm
      have h2 := hcount m
      omega) hr
    obtain ⟨hR', hgrow, hrest'⟩ := ih (fun q hq => hroots q (List.mem_cons_of_mem r hq)) σ s' hR
      (fun m hm => by
        have h1 := hbudget m hm
        have h2 := hpend m hm
        have h3 := hcount m
        omega) hrest
    refine ⟨hR', fun q hq => hgrow q (hB.mem_ran hq), fun q hq => ?_⟩
    rcases List.mem_cons.mp hq with rfl | hq
    · exact hgrow q (hran hlt)
    · exact hrest' q hq

/-- Running the roots of a program in a tick, from a state in which nothing has run yet and nothing
is kept for this tick, where the slots and the roots hand each stage that keeps no results out at
most once: every stage runs at most once, and every root exactly once. -/
theorem roots_run_once (hc : Compiled stages) {roots : List Nat}
    (hroots : ∀ r ∈ roots, r < stages.size)
    (hsingle : ∀ m, Single stages m → slotRefs stages [] m + roots.count m ≤ 1)
    {s s' : Run} (hfits : ConstantsFit stages s) (hran : s.ran = [])
    (hsize : stages.size ≤ s.memos.size)
    (hfresh : ∀ (q : Nat) (m : Memo), (s.memos[q]?).join = some m → m.tick ≠ tick)
    (h : (roots.forM (run stages tick dt)).run s = .ok ((), s')) :
    s'.ran.Nodup ∧ ∀ r ∈ roots, s'.ran.count r = 1 := by
  have hready : Ready stages tick stages.size s :=
    ⟨by simp [hran], fun _ _ _ _ _ hq => by simp [hran] at hq, fun q _ m hm => hfresh q m hm,
      hfits, hsize⟩
  obtain ⟨hR, -, hmem⟩ := roots_once hc roots hroots s s' hready
    (fun m hm => by simpa [pending, hran] using hsingle m hm) h
  exact ⟨hR.nodup, fun r hr => by rw [hR.nodup.count, if_pos (hmem r hr)]⟩

end Roots

end Program

end NodeGraph
