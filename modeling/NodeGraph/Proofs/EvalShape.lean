import NodeGraph.Proofs.ComputeSteps

/-!
# Evaluation changes node state only

Evaluation reads and writes the state kept in nodes, the host properties and the kept results,
but never which nodes there are or how they are linked: its only write to the nodes replaces one
node's kind. `Run.shape` is what stays. Keeping it is closed under the steps of a plan's
computation, so a plan keeps it when its readers do (`Plan.keepsShape_compute`), and by strong
induction on the stage's position every evaluation of every program keeps it
(`Program.keepsShape_evalAt`).
-/

namespace NodeGraph

namespace Run

/-- The ids of the nodes, in order, with their links. -/
def shape (r : Run) : List (NodeId × List Link) := r.nodes.map fun n => (n.id, n.inputs)

@[simp] theorem shape_setKind (r : Run) (id : NodeId) (k : Kind) :
    (r.setKind id k).shape = r.shape := by
  simp only [shape, setKind, List.map_map]
  congr 1
  funext n
  simp only [Function.comp]
  split <;> rfl

end Run

/-- A computation that, whenever it succeeds, leaves the ids and links of the nodes as they were. -/
def KeepsShape {α : Type} (m : EvalM α) : Prop :=
  ∀ s a s', m.run s = .ok (a, s') → s'.shape = s.shape

namespace KeepsShape

variable {α β : Type}

theorem pure (a : α) : KeepsShape (pure a : EvalM α) := by
  intro s b s' h
  cases h
  rfl

theorem bind {x : EvalM α} {f : α → EvalM β} (hx : KeepsShape x) (hf : ∀ a, KeepsShape (f a)) :
    KeepsShape (x >>= f) := by
  intro s b s' h
  rw [StateT.run_bind] at h
  cases hxs : x.run s with
  | error e =>
    rw [hxs] at h
    cases h
  | ok p =>
    rw [hxs] at h
    exact (hf p.1 p.2 b s' h).trans (hx s p.1 p.2 hxs)

theorem throw (e : Fault) : KeepsShape (throw e : EvalM α) := by
  intro s a s' h
  cases h

theorem get : KeepsShape (get : EvalM Run) := by
  intro s a s' h
  cases h
  rfl

theorem modify (f : Run → Run) (hf : ∀ s, (f s).shape = s.shape) :
    KeepsShape (modify f : EvalM PUnit) := by
  intro s a s' h
  cases h
  exact hf s

theorem modifyThe (f : Run → Run) (hf : ∀ s, (f s).shape = s.shape) :
    KeepsShape (modifyThe Run f : EvalM PUnit) := by
  intro s a s' h
  cases h
  exact hf s

theorem ite {c : Prop} [Decidable c] {x y : EvalM α} (hx : KeepsShape x) (hy : KeepsShape y) :
    KeepsShape (if c then x else y) := by
  split
  · exact hx
  · exact hy

theorem putKind (id : NodeId) (k : Kind) : KeepsShape (putKind id k) :=
  modify _ fun s => Run.shape_setKind s id k

theorem liftFault (x : Except Fault α) : KeepsShape (liftFault x) := by
  cases x with
  | ok a => exact pure a
  | error e => exact throw e

theorem forM {γ : Type} (xs : List γ) (f : γ → EvalM PUnit) (hf : ∀ x, KeepsShape (f x)) :
    KeepsShape (xs.forM f) := by
  induction xs with
  | nil => exact pure _
  | cons x xs ih => exact bind (hf x) fun _ => ih

end KeepsShape

/-- Readers whose reads all keep the shape. -/
structure Reads.KeepShape (r : Reads) : Prop where
  get : ∀ k t, KeepsShape (r.get k t)
  tryGet : ∀ k t, KeepsShape (r.tryGet k t)

namespace Reads.KeepShape

variable {r : Reads}

/-- Readers that keep the shape make keeping it a property closed under the steps of a plan's
computation: no step but a write of a node's kind touches the nodes, and that one keeps their ids
and links. -/
theorem computeClosed (hr : r.KeepShape) (rs : List (Nat × ValueType)) :
    ComputeClosed (fun m => KeepsShape m) r rs :=
  { pure := KeepsShape.pure
    bind := KeepsShape.bind
    getState := KeepsShape.get
    setKind := KeepsShape.putKind
    modifyHost := fun f hf => KeepsShape.modifyThe f fun s => by rw [Run.shape, Run.shape, hf]
    lift := fun _ => KeepsShape.liftFault _
    get := fun _ => hr.get _ _
    tryGet := fun _ => hr.tryGet _ _ }

end Reads.KeepShape

/-- A plan's computation keeps the shape when its readers do. -/
theorem Plan.keepsShape_compute {r : Reads} (p : Plan) (dt : Float32) (hr : r.KeepShape) :
    KeepsShape (p.compute dt r) :=
  (hr.computeClosed p.reads).compute p dt

namespace Program

variable {stages : Array Stage} {tick : Nat} {dt : Float32}

/-- A stage's readers keep the shape when the evaluations of the stages they read do. -/
theorem stageReads_keepShape {i : Nat} {st : Stage}
    {eval : (j : Nat) → j < i → ValueType → EvalM (Option Value)}
    (h : ∀ j (hj : j < i) t, KeepsShape (eval j hj t)) : (stageReads i st eval).KeepShape := by
  -- `get` and `tryGet` take the same path to the stage they read
  constructor <;>
  · intro k t
    dsimp only [stageReads]
    split
    · split
      · exact KeepsShape.bind (h _ ‹_› t) fun _ => KeepsShape.pure _
      · exact KeepsShape.pure _
    · exact KeepsShape.pure _

theorem keepsShape_typedRun {i : Nat} {st : Stage} {reads : Reads} {t : ValueType}
    (hr : reads.KeepShape) : KeepsShape (evalAt.typedRun tick dt i st reads t) := by
  unfold evalAt.typedRun
  lift_lets
  intro jp
  -- past the type check the run is logged, the plan computed and its value perhaps kept
  have hjp : ∀ u, KeepsShape (jp u) := by
    intro u
    simp only [jp]
    refine KeepsShape.bind (KeepsShape.modify _ fun _ => rfl) fun _ => ?_
    refine KeepsShape.bind (Plan.keepsShape_compute _ _ hr) fun _ => ?_
    split
    · exact KeepsShape.bind (KeepsShape.modify _ fun _ => rfl) fun _ => KeepsShape.pure _
    · exact KeepsShape.pure _
  clear_value jp
  split
  · exact KeepsShape.bind (KeepsShape.throw _) hjp
  · exact hjp ()

theorem keepsShape_effectRun {i : Nat} {st : Stage} {reads : Reads} (hr : reads.KeepShape) :
    KeepsShape (evalAt.effectRun tick dt i st reads) := by
  unfold evalAt.effectRun
  refine KeepsShape.bind (KeepsShape.modify _ fun _ => rfl) fun _ => ?_
  refine KeepsShape.bind (Plan.keepsShape_compute _ _ hr) fun _ => ?_
  dsimp only
  split
  · exact KeepsShape.bind (KeepsShape.modify _ fun _ => rfl) fun _ => KeepsShape.pure _
  · exact KeepsShape.pure _

/-- Evaluating any stage of any program, for any request, keeps the shape; by strong induction on
the stage's position, through the stages its readers evaluate. -/
theorem keepsShape_evalAt (stages : Array Stage) (tick : Nat) (dt : Float32) (i : Nat)
    (w : Want) : KeepsShape (evalAt stages tick dt i w) := by
  induction i using Nat.strongRecOn generalizing w with
  | ind i ih =>
  rw [evalAt]
  split
  · exact KeepsShape.pure _
  · rename_i st hst
    have hreads : (stageReads i st fun j _ t => evalAt stages tick dt j (.typed t)).KeepShape :=
      stageReads_keepShape fun j hj t => ih j hj (.typed t)
    refine KeepsShape.bind KeepsShape.get fun _ => ?_
    cases w with
    | typed t =>
      dsimp only
      split
      · exact KeepsShape.ite (KeepsShape.pure _) (keepsShape_typedRun hreads)
      · exact keepsShape_typedRun hreads
    | effect =>
      dsimp only
      split
      · exact KeepsShape.ite (KeepsShape.pure _) (keepsShape_effectRun hreads)
      · exact keepsShape_effectRun hreads

theorem keepsShape_evalValue (stages : Array Stage) (tick : Nat) (dt : Float32) (i : Nat) :
    KeepsShape (evalValue stages tick dt i) := by
  unfold evalValue
  split
  · exact KeepsShape.pure _
  · split
    · exact KeepsShape.bind (keepsShape_evalAt stages tick dt i .effect) fun _ => KeepsShape.pure _
    · exact keepsShape_evalAt stages tick dt i _

theorem keepsShape_run (stages : Array Stage) (tick : Nat) (dt : Float32) (i : Nat) :
    KeepsShape (run stages tick dt i) :=
  KeepsShape.bind (keepsShape_evalValue stages tick dt i) fun _ => KeepsShape.pure _

end Program

end NodeGraph
