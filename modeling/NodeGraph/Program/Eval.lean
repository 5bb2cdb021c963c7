import NodeGraph.Program.Compute

/-!
# Evaluating programs

A stage is evaluated for a tick either *as a type* (its consumer reads it as that type) or *for its
effect* (a stage that produces nothing). A stage that keeps its results answers a second request in
the same tick from what it kept, without running again: as a type when it kept a value of that
type, for its effect when it ran in that tick at all.

Reading a stage as a type it does not produce is a fault that names the node, the type it
produces and the type it was read as.

Every stage reads only stages before it, so evaluation recurses on the stage's position.
-/

namespace NodeGraph

/-- What a stage is evaluated for. -/
inductive Want where
  /-- a value of this type -/
  | typed (t : ValueType)
  /-- the effect of a stage that produces nothing -/
  | effect
deriving Inhabited

namespace Program

/-- The readers of the stage `st` at position `i`: an input whose slot holds an earlier stage `j`
reads the value of `eval j` as the type asked for; any other input reads as missing. -/
def stageReads (i : Nat) (st : Stage)
    (eval : (j : Nat) → j < i → ValueType → EvalM (Option Value)) : Reads where
  get k t :=
    match (st.inputs[k]?).join with
    | some j =>
      if hj : j < i then do
        let v ← eval j hj t
        pure (v.getD (zeroValue t))
      else pure (zeroValue t)
    | none => pure (zeroValue t)
  tryGet k t :=
    match (st.inputs[k]?).join with
    | some j =>
      if hj : j < i then do
        let v ← eval j hj t
        pure (some (v.getD (zeroValue t)))
      else pure none
    | none => pure none

/-- Evaluates the stage at position `i` of `stages` in tick `tick` with step `dt`. -/
def evalAt (stages : Array Stage) (tick : Nat) (dt : Float32) (i : Nat) (want : Want) :
    EvalM (Option Value) := do
  match stages[i]? with
  | none => return none
  | some st =>
    let reads := stageReads i st fun j _ t => evalAt stages tick dt j (.typed t)
    let memo := ((← get).memos[i]?).join
    match want with
    | .typed t =>
      match memo with
      | some ⟨mt, some v⟩ =>
        if mt = tick ∧ v.type = t then return some v
        else typedRun st reads t
      | _ => typedRun st reads t
    | .effect =>
      match memo with
      | some m => if m.tick = tick then return none else effectRun st reads
      | none => effectRun st reads
termination_by i
where
  /-- Runs a stage read as type `t`. -/
  typedRun (st : Stage) (reads : Reads) (t : ValueType) : EvalM (Option Value) := do
    if st.plan.output ≠ t then throw (.kindMismatch st.node st.plan.output t)
    modify fun r => { r with ran := r.ran ++ [i] }
    let v := (← st.plan.compute dt reads).getD (zeroValue t)
    if st.memoize then
      modify fun r => { r with memos := r.memos.set! i (some ⟨tick, some v⟩) }
    return some v
  /-- Runs a stage that produces nothing. -/
  effectRun (st : Stage) (reads : Reads) : EvalM (Option Value) := do
    modify fun r => { r with ran := r.ran ++ [i] }
    let _ ← st.plan.compute dt reads
    if st.memoize then
      modify fun r => { r with memos := r.memos.set! i (some ⟨tick, none⟩) }
    return none

/-- Evaluates a stage as the type it produces; a stage that produces nothing is run for its
effect and gives no value. -/
def evalValue (stages : Array Stage) (tick : Nat) (dt : Float32) (i : Nat) :
    EvalM (Option Value) := do
  match stages[i]? with
  | none => return none
  | some st =>
    if st.plan.isVoid then
      let _ ← evalAt stages tick dt i .effect
      return none
    else evalAt stages tick dt i (.typed st.plan.output)

/-- Runs a stage once for the tick: a stage with a value is evaluated as its type and the value
dropped. -/
def run (stages : Array Stage) (tick : Nat) (dt : Float32) (i : Nat) : EvalM Unit := do
  let _ ← evalValue stages tick dt i

end Program

end NodeGraph
