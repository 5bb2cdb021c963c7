import NodeGraph.Proofs.Mismatch

/-!
# Evaluating programs whose reads fit their sources

A program *reads within* a set of types `V` when every read a stage's plan lists asks for the type
the stage it reads produces, or lands on a stage producing a type in `V`. Evaluating such a program
stops with a kind mismatch only on a stage producing a type in `V`; by strong induction on the
position of the stage evaluated, since a stage's readers evaluate earlier stages only.
-/

namespace NodeGraph

namespace Program

/-- Every read a stage's plan lists, at a slot holding an earlier stage, asks for the type that
stage produces or lands on a stage producing a type in `V`. -/
def ReadsWithin (V : ValueType → Prop) (stages : Array Stage) : Prop :=
  ∀ i (st : Stage), stages[i]? = some st → ∀ k t, (k, t) ∈ st.plan.reads →
    ∀ j (sj : Stage), (st.inputs[k]?).join = some j → j < i → stages[j]? = some sj →
      sj.plan.output = t ∨ V sj.plan.output

/-- What a request for a stage asks: as a type, one the stage produces or a type in `V`; for its
effect, nothing. -/
def Asks (V : ValueType → Prop) (stages : Array Stage) (i : Nat) : Want → Prop
  | .typed t => ∀ st, stages[i]? = some st → st.plan.output = t ∨ V st.plan.output
  | .effect => True

variable {V : ValueType → Prop} {stages : Array Stage} {tick : Nat} {dt : Float32}

theorem stageReads_answers {i : Nat} {st : Stage} {rs : List (Nat × ValueType)}
    {eval : (j : Nat) → j < i → ValueType → EvalM (Option Value)}
    (h : ∀ k t j (hj : j < i), (k, t) ∈ rs → (st.inputs[k]?).join = some j →
      MismatchesIn V (eval j hj t)) :
    (stageReads i st eval).Answers V rs := by
  intro k t hkt
  -- `get` and `tryGet` take the same path to the stage they read
  constructor <;>
  · dsimp only [stageReads]
    split
    · rename_i j hslot
      split
      · exact MismatchesIn.bind (h k t j ‹_› hkt hslot) fun _ => MismatchesIn.pure _
      · exact MismatchesIn.pure _
    · exact MismatchesIn.pure _

theorem mismatchesIn_typedRun {i : Nat} {st : Stage} {reads : Reads} {t : ValueType}
    (hout : st.plan.output = t ∨ V st.plan.output) (hr : reads.Answers V st.plan.reads) :
    MismatchesIn V (evalAt.typedRun tick dt i st reads t) := by
  unfold evalAt.typedRun
  lift_lets
  intro jp
  have hjp : ∀ u, MismatchesIn V (jp u) := by
    intro u
    simp only [jp]
    refine MismatchesIn.bind (MismatchesIn.modify _) fun _ => ?_
    refine MismatchesIn.bind (Plan.mismatchesIn_compute _ hr) fun _ => ?_
    split
    · exact MismatchesIn.bind (MismatchesIn.modify _) fun _ => MismatchesIn.pure _
    · exact MismatchesIn.pure _
  clear_value jp
  -- the one mismatch of its own: asked for a type it does not produce, whose stage then
  -- produces a type in `V`
  split
  · next hne => exact MismatchesIn.bind (MismatchesIn.throw (hout.resolve_left hne)) hjp
  · exact hjp ()

theorem mismatchesIn_effectRun {i : Nat} {st : Stage} {reads : Reads}
    (hr : reads.Answers V st.plan.reads) :
    MismatchesIn V (evalAt.effectRun tick dt i st reads) := by
  unfold evalAt.effectRun
  refine MismatchesIn.bind (MismatchesIn.modify _) fun _ => ?_
  refine MismatchesIn.bind (Plan.mismatchesIn_compute _ hr) fun _ => ?_
  dsimp only
  split
  · exact MismatchesIn.bind (MismatchesIn.modify _) fun _ => MismatchesIn.pure _
  · exact MismatchesIn.pure _

/-- Evaluating a stage of a program that reads within `V`, for a request that asks within `V`,
stops with a kind mismatch only on a stage producing a type in `V`. -/
theorem mismatchesIn_evalAt (h : ReadsWithin V stages) (i : Nat) (w : Want)
    (hw : Asks V stages i w) : MismatchesIn V (evalAt stages tick dt i w) := by
  induction i using Nat.strongRecOn generalizing w with
  | ind i ih =>
  rw [evalAt]
  split
  · exact MismatchesIn.pure _
  · rename_i st hst
    -- each read of the stage evaluates an earlier stage as a type its plan lists
    have hreads : (stageReads i st fun j _ t => evalAt stages tick dt j (.typed t)).Answers V
        st.plan.reads := stageReads_answers fun k t j hj hkt hslot =>
      ih j hj (.typed t) fun sj hsj => h i st hst k t hkt j sj hslot hj hsj
    refine MismatchesIn.bind MismatchesIn.get fun _ => ?_
    cases w with
    | typed t =>
      have hout : st.plan.output = t ∨ V st.plan.output := hw st hst
      dsimp only
      split
      · exact MismatchesIn.ite (MismatchesIn.pure _) (mismatchesIn_typedRun hout hreads)
      · exact mismatchesIn_typedRun hout hreads
    | effect =>
      dsimp only
      split
      · exact MismatchesIn.ite (MismatchesIn.pure _) (mismatchesIn_effectRun hreads)
      · exact mismatchesIn_effectRun hreads

/-- Evaluating a stage as the type it produces stops with a kind mismatch only on a stage
producing a type in `V`. -/
theorem mismatchesIn_evalValue (h : ReadsWithin V stages) (i : Nat) :
    MismatchesIn V (evalValue stages tick dt i) := by
  unfold evalValue
  split
  · exact MismatchesIn.pure _
  · rename_i st hst
    split
    · exact MismatchesIn.bind (mismatchesIn_evalAt h i .effect trivial) fun _ =>
        MismatchesIn.pure _
    · refine mismatchesIn_evalAt h i (.typed st.plan.output) fun sj hsj => ?_
      rw [hst] at hsj
      cases hsj
      exact .inl rfl

theorem mismatchesIn_run (h : ReadsWithin V stages) (i : Nat) :
    MismatchesIn V (run stages tick dt i) :=
  MismatchesIn.bind (mismatchesIn_evalValue h i) fun _ => MismatchesIn.pure _

end Program

end NodeGraph
