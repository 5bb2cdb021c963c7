import Mathlib.Logic.Relation
import NodeGraph.Proofs.OncePerTick

/-!
# A kept result answers the rest of the tick

A stage that keeps its results runs at most once in a tick. The first request for it in the tick
runs it and keeps its result (`evalValue_keeps`). From then on every successful request, for any
stage, leaves that result in place and does not run the stage (`evalAt_keeps_answer`), and a call
of `evalValue` for the stage answers with that result and changes nothing (`evalValue_answered`).
`kept_result_answers_tick` puts the three together over any sequence of requests in the tick.
-/

namespace NodeGraph

/-- A result stage `st` can give: nothing for a stage that produces nothing, a value of its type
otherwise. -/
def Stage.Gives (st : Stage) : Option Value → Prop
  | none => st.plan.output = .none
  | some v => v.type = st.plan.output

theorem Value.type_ne_none (v : Value) : v.type ≠ .none := by
  cases v <;> simp [Value.type]

namespace Program

variable {stages : Array Stage} {tick : Nat} {dt : Float32}

/-- In state `s`, stage `i` has kept `x` for tick `tick`, a result it can give. -/
def Answered (stages : Array Stage) (tick i : Nat) (x : Option Value) (s : Run) : Prop :=
  ∃ st, stages[i]? = some st ∧ st.Gives x ∧ (s.memos[i]?).join = some ⟨tick, x⟩

/-- One successful request in tick `tick` that suits its stage. -/
def Requested (stages : Array Stage) (tick : Nat) (dt : Float32) (s s' : Run) : Prop :=
  ∃ j w y, WantOk stages j w ∧ (evalAt stages tick dt j w).run s = .ok (y, s')

theorem Answered.of_memos {i : Nat} {x : Option Value} {s s' : Run} (h : Answered stages tick i x s)
    (hm : s'.memos[i]? = s.memos[i]?) : Answered stages tick i x s' := by
  obtain ⟨st, hst, hg, hmemo⟩ := h
  exact ⟨st, hst, hg, by rw [hm]; exact hmemo⟩

theorem request_answered {i : Nat} {x y : Option Value} {w : Want} {s s' : Run}
    (hans : Answered stages tick i x s) (hw : WantOk stages i w)
    (h : (evalAt stages tick dt i w).run s = .ok (y, s')) :
    s' = s ∧ ∀ t, w = .typed t → y = x := by
  obtain ⟨st, hst, hg, hmemo⟩ := hans
  cases w with
  | effect =>
    rw [evalAt] at h
    simp only [hst, StateT.run_bind, StateT.run_get, pure_bind, hmemo, if_true] at h
    cases h
    exact ⟨rfl, fun _ ht => nomatch ht⟩
  | typed t =>
    have htv := (hw st hst).2 t rfl
    rw [evalAt] at h
    cases x with
    | none =>
      -- a stage that produces nothing cannot be read as a type with values
      simp only [hst, StateT.run_bind, StateT.run_get, pure_bind, hmemo] at h
      obtain ⟨hout, -⟩ := typedRun_ok h
      simp only [Stage.Gives] at hg
      rw [hg] at hout
      subst hout
      exact absurd htv (by decide)
    | some v =>
      simp only [hst, StateT.run_bind, StateT.run_get, pure_bind, hmemo, true_and] at h
      split at h
      · cases h
        exact ⟨rfl, fun _ _ => rfl⟩
      · obtain ⟨hout, -⟩ := typedRun_ok h
        simp only [Stage.Gives] at hg
        exact absurd (hg.trans hout) ‹_›

/-- A run of the plan of stage `i` keeps a property of states that its own steps keep and that every
request for an earlier stage keeps, from a state in which the constants fit. -/
theorem compute_keeps (hc : Compiled stages) {i : Nat} {st : Stage} (hst : stages[i]? = some st)
    {P : Run → Prop} (hsteps : ∀ σ σ', Run.Steps st.plan.stateNode? σ σ' → P σ → P σ')
    (hreq : ∀ j < i, ∀ (t : ValueType) (σ σ' : Run) (v : Option Value), t.HasValues →
      ConstantsFit stages σ → P σ → (evalAt stages tick dt j (.typed t)).run σ = .ok (v, σ') → P σ')
    {s σ : Run} {y : Option Value} (hs : ConstantsFit stages s) (hp : P (logRun s i))
    (hrun : (st.plan.compute dt (readsOf stages tick dt i st)).run (logRun s i) = .ok (y, σ)) :
    P σ := by
  have hreads : Reads.Once (fun _ σ => ConstantsFit stages σ ∧ P σ)
      (readsOf stages tick dt i st) st.plan.stateNode? := by
    refine stageReads_once (fun _ _ j t hj _ _ htv σ hσ v σ' h => ?_) (fun _ _ _ _ h => h)
      fun _ _ _ h hσ => ⟨hσ.1.steps hc hst h, hsteps _ _ h hσ.2⟩
    obtain ⟨hf, -, hty⟩ := evalAt_frame hc j (.typed t) σ σ' v hσ.1 h
    exact ⟨⟨hf, hreq j hj t σ σ' v htv hσ.1 hσ.2 h⟩, hty t rfl htv⟩
  obtain ⟨⟨_, -, hσ⟩, -⟩ := (Plan.compute_uses st.plan (hc.wellFormed i st hst) hreads
    (fun node t hp _ s hs => hs.1 i st node t hst hp) dt).run
    (show ConstantsFit stages (logRun s i) ∧ P (logRun s i) from ⟨hs.of_nodes rfl, hp⟩) hrun
  exact hσ

/-- Every successful request keeps what stage `i` kept for the tick, and does not run stage `i`;
by induction on the position of the stage asked for. -/
theorem evalAt_keeps_answer (hc : Compiled stages) {i : Nat} {x : Option Value} (j : Nat) :
    ∀ (w : Want) (s s' : Run) (y : Option Value), WantOk stages j w → ConstantsFit stages s →
      Answered stages tick i x s → (evalAt stages tick dt j w).run s = .ok (y, s') →
      Answered stages tick i x s' ∧ s'.ran.count i = s.ran.count i := by
  induction j using Nat.strongRecOn with
  | ind j ih =>
    intro w s s' y hw hs hans h
    by_cases hji : j = i
    · subst hji
      obtain ⟨rfl, -⟩ := request_answered hans hw h
      exact ⟨hans, rfl⟩
    -- a run of another stage: its requests keep the answer, and it keeps its own result elsewhere
    have hrun : ∀ (st : Stage) (σ : Run) (y' kept : Option Value), stages[j]? = some st →
        (st.plan.compute dt (readsOf stages tick dt j st)).run (logRun s j) = .ok (y', σ) →
        Answered stages tick i x (keep st j tick kept σ) ∧
          (keep st j tick kept σ).ran.count i = s.ran.count i := by
      intro st σ y' kept hst hrun
      have hreq : ∀ j' < j, ∀ (t : ValueType) (σ σ' : Run) (v : Option Value), t.HasValues →
          ConstantsFit stages σ → Answered stages tick i x σ ∧ σ.ran.count i = s.ran.count i →
          (evalAt stages tick dt j' (.typed t)).run σ = .ok (v, σ') →
          Answered stages tick i x σ' ∧ σ'.ran.count i = s.ran.count i := by
        intro j' hj' t σ σ' v htv hf hσ h
        have hw' : WantOk stages j' (.typed t) := fun _ _ =>
          ⟨(fun h => nomatch h), fun _ ht => by cases ht; exact htv⟩
        obtain ⟨hans', hcount⟩ := ih j' hj' (.typed t) σ σ' v hw' hf hσ.1 h
        exact ⟨hans', hcount.trans hσ.2⟩
      obtain ⟨hσ, hcount⟩ := compute_keeps hc hst
        (fun _ _ h hσ => ⟨hσ.1.of_memos (by rw [h.memos]), by rw [h.ran]; exact hσ.2⟩) hreq hs
        ⟨hans.of_memos rfl, by simp [logRun, hji]⟩ hrun
      exact ⟨hσ.of_memos (keep_memos_ne st kept σ (Ne.symm hji)), by rw [keep_ran]; exact hcount⟩
    cases w with
    | typed t =>
      rcases evalAt_typed_ok h with ⟨rfl, -⟩ | ⟨st, hst, -, -, y', σ, hc', -, rfl⟩
      · exact ⟨hans, rfl⟩
      · exact hrun st σ y' _ hst hc'
    | effect =>
      obtain ⟨-, ⟨rfl, -⟩ | ⟨st, hst, -, y', σ, hc', rfl⟩⟩ := evalAt_effect_ok h
      · exact ⟨hans, rfl⟩
      · exact hrun st σ y' none hst hc'

theorem evalValue_keeps (hc : Compiled stages) {i : Nat} {st : Stage} (hst : stages[i]? = some st)
    (hm : st.memoize = true) {s s₁ : Run} {x : Option Value} (hs : ConstantsFit stages s)
    (hsize : i < s.memos.size) (hfresh : ∀ m : Memo, (s.memos[i]?).join = some m → m.tick ≠ tick)
    (h : (evalValue stages tick dt i).run s = .ok (x, s₁)) :
    Answered stages tick i x s₁ ∧ s₁.ran.count i = s.ran.count i + 1 := by
  obtain ⟨w, hw, h⟩ := evalValue_request hc h
  -- the run logs the stage once and keeps its result
  have hrun : ∀ (σ : Run) (y : Option Value),
      (st.plan.compute dt (readsOf stages tick dt i st)).run (logRun s i) = .ok (y, σ) →
      st.Gives x → Answered stages tick i x (keep st i tick x σ) ∧
        (keep st i tick x σ).ran.count i = s.ran.count i + 1 := by
    intro σ y hrun hg
    obtain ⟨-, hB, -⟩ := compute_frame hc hst (fun j _ => evalAt_frame hc j) hs hrun
    refine ⟨⟨st, hst, hg, by rw [keep_memos_self x hm (by rw [hB.size]; exact hsize)]; rfl⟩, ?_⟩
    rw [keep_ran, hB.count_ran (Nat.le_refl i)]
    simp [logRun]
  cases w with
  | typed t =>
    rcases evalAt_typed_ok h with ⟨-, -, hkept⟩ | ⟨st', hst', -, hout, y, σ, hc', rfl, rfl⟩
    · obtain ⟨m, hm', hmt⟩ := hkept st hst
      exact absurd hmt (hfresh m hm')
    · rw [hst] at hst'
      cases hst'
      refine hrun σ y hc' ?_
      have htv := (hw st hst).2 t rfl
      have hy := (compute_frame hc hst (fun j _ => evalAt_frame hc j) hs hc').2.2
      exact (type_getD_zeroValue (fun v hv => (hy v hv).trans hout) htv).trans hout.symm
  | effect =>
    obtain ⟨rfl, ⟨-, hkept⟩ | ⟨st', hst', -, y, σ, hc', rfl⟩⟩ := evalAt_effect_ok h
    · obtain ⟨m, hm', hmt⟩ := hkept st hst
      exact absurd hmt (hfresh m hm')
    · rw [hst] at hst'
      cases hst'
      exact hrun σ y hc' ((hw st hst).1 rfl)

theorem evalValue_answered {i : Nat} {x : Option Value} {s : Run}
    (hans : Answered stages tick i x s) : (evalValue stages tick dt i).run s = .ok (x, s) := by
  obtain ⟨st, hst, hg, hmemo⟩ := hans
  unfold evalValue
  simp only [hst]
  cases x with
  | none =>
    have hout : st.plan.output = .none := hg
    have hvoid : st.plan.isVoid = true := by simp [Plan.isVoid, hout]
    simp only [hvoid, if_true]
    rw [evalAt]
    simp [hst, hmemo]
    rfl
  | some v =>
    have hout : v.type = st.plan.output := hg
    have hvoid : st.plan.isVoid = false := by
      simpa [Plan.isVoid, ← hout] using Value.type_ne_none v
    simp only [hvoid, Bool.false_eq_true, if_false]
    rw [evalAt]
    simp [hst, hmemo, hout]
    rfl

theorem requests_keep_answer (hc : Compiled stages) {i : Nat} {x : Option Value} {s₁ s₂ : Run}
    (hsteps : Relation.ReflTransGen (Requested stages tick dt) s₁ s₂)
    (hs : ConstantsFit stages s₁) (hans : Answered stages tick i x s₁) :
    ConstantsFit stages s₂ ∧ Answered stages tick i x s₂ ∧ s₂.ran.count i = s₁.ran.count i := by
  induction hsteps with
  | refl => exact ⟨hs, hans, rfl⟩
  | tail _ hstep ih =>
    obtain ⟨hf, ha, hcount⟩ := ih
    obtain ⟨j, w, y, hw, h⟩ := hstep
    obtain ⟨ha', hcount'⟩ := evalAt_keeps_answer hc j w _ _ y hw hf ha h
    exact ⟨(evalAt_frame hc j w _ _ y hf h).1, ha', hcount'.trans hcount⟩

/-- A stage that keeps its results runs at most once in a tick. Its first request in the tick, from
a state that kept nothing for it in this tick, runs it once; after that, whatever else is asked in
the tick, it does not run again, and every call of `evalValue` for it answers with the first
result and changes nothing. -/
theorem kept_result_answers_tick (hc : Compiled stages) {i : Nat} {st : Stage}
    (hst : stages[i]? = some st) (hm : st.memoize = true) {s s₁ : Run} {x : Option Value}
    (hs : ConstantsFit stages s) (hsize : i < s.memos.size)
    (hfresh : ∀ m : Memo, (s.memos[i]?).join = some m → m.tick ≠ tick)
    (h : (evalValue stages tick dt i).run s = .ok (x, s₁)) :
    s₁.ran.count i = s.ran.count i + 1 ∧
      ∀ s₂, Relation.ReflTransGen (Requested stages tick dt) s₁ s₂ →
        s₂.ran.count i = s₁.ran.count i ∧ (evalValue stages tick dt i).run s₂ = .ok (x, s₂) := by
  obtain ⟨hans, hcount⟩ := evalValue_keeps hc hst hm hs hsize hfresh h
  have hs₁ : ConstantsFit stages s₁ := by
    obtain ⟨w, -, hw⟩ := evalValue_request hc h
    exact (evalAt_frame hc i w s s₁ x hs hw).1
  refine ⟨hcount, fun s₂ hsteps => ?_⟩
  obtain ⟨-, hans₂, hcount₂⟩ := requests_keep_answer hc hsteps hs₁ hans
  exact ⟨hcount₂, evalValue_answered hans₂⟩

end Program

end NodeGraph
