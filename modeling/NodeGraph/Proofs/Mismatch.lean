import NodeGraph.Proofs.ComputeSteps

/-!
# Where a kind mismatch can come from

Evaluation stops with `Fault.kindMismatch` only where a stage is asked for a type its plan does not
produce. A plan raises one only through the inputs it reads, since the faults of its operations are
never kind mismatches. `MismatchesIn V m` says that `m` stops with a kind mismatch only on a stage
producing a type in `V`; it is closed under the steps of a plan's computation, so a plan mismatches
only where its reads do (`Plan.mismatchesIn_compute`).
-/

namespace NodeGraph

namespace Fault

/-- A fault that is not a kind mismatch, or a mismatch on a stage producing a type in `V`. -/
def MismatchIn (V : ValueType → Prop) : Fault → Prop
  | .kindMismatch _ out _ => V out
  | _ => True

theorem mismatchIn_of_isMismatch {V : ValueType → Prop} {e : Fault} (h : e.isMismatch = false) :
    e.MismatchIn V := by
  cases e with
  | kindMismatch => cases h
  | _ => trivial

end Fault

/-- A computation that, from any state, stops with a kind mismatch only on a stage producing a
type in `V`. -/
def MismatchesIn {α : Type} (V : ValueType → Prop) (m : EvalM α) : Prop :=
  ∀ s e, m.run s = .error e → e.MismatchIn V

section Steps

variable {α β : Type} {V : ValueType → Prop}

theorem MismatchesIn.pure (a : α) : MismatchesIn V (pure a : EvalM α) := by
  intro s e h
  cases h

theorem MismatchesIn.bind {x : EvalM α} {f : α → EvalM β} (hx : MismatchesIn V x)
    (hf : ∀ a, MismatchesIn V (f a)) : MismatchesIn V (x >>= f) := by
  intro s e h
  rw [StateT.run_bind] at h
  cases hxs : x.run s with
  | error e' =>
    rw [hxs] at h
    cases h
    exact hx s _ hxs
  | ok p =>
    rw [hxs] at h
    exact hf p.1 p.2 e h

theorem MismatchesIn.throw {e : Fault} (he : e.MismatchIn V) :
    MismatchesIn V (throw e : EvalM α) := by
  intro s e' h
  cases h
  exact he

theorem MismatchesIn.get : MismatchesIn V (get : EvalM Run) := by
  intro s e h
  cases h

theorem MismatchesIn.modify (f : Run → Run) : MismatchesIn V (modify f : EvalM PUnit) := by
  intro s e h
  cases h

theorem MismatchesIn.modifyThe (f : Run → Run) :
    MismatchesIn V (modifyThe Run f : EvalM PUnit) := by
  intro s e h
  cases h

theorem MismatchesIn.liftFault {x : Except Fault α} (hx : NoMismatchE x) :
    MismatchesIn V (liftFault x) := by
  intro s e h
  cases hxe : x with
  | error e' =>
    rw [hxe] at h
    cases h
    exact Fault.mismatchIn_of_isMismatch (hx _ hxe)
  | ok a =>
    rw [hxe] at h
    cases h

theorem MismatchesIn.ite {c : Prop} [Decidable c] {x y : EvalM α} (hx : MismatchesIn V x)
    (hy : MismatchesIn V y) : MismatchesIn V (if c then x else y) := by
  split
  · exact hx
  · exact hy


theorem MismatchesIn.putKind (id : NodeId) (k : Kind) : MismatchesIn V (putKind id k) :=
  MismatchesIn.modify _

end Steps

/-- Readers that answer every read of a list with a kind mismatch only on a stage producing a
type in `V`. -/
def Reads.Answers (r : Reads) (V : ValueType → Prop) (rs : List (Nat × ValueType)) : Prop :=
  ∀ k t, (k, t) ∈ rs → MismatchesIn V (r.get k t) ∧ MismatchesIn V (r.tryGet k t)

namespace Reads

variable {r : Reads} {V : ValueType → Prop} {rs : List (Nat × ValueType)} {k : Nat} {t : ValueType}

theorem Answers.get (h : r.Answers V rs) (hm : (k, t) ∈ rs) : MismatchesIn V (r.get k t) :=
  (h k t hm).1

theorem Answers.tryGet (h : r.Answers V rs) (hm : (k, t) ∈ rs) : MismatchesIn V (r.tryGet k t) :=
  (h k t hm).2

/-- Readers that answer the reads in `rs` with mismatches only on stages producing a type in `V`
make mismatching a property closed under the steps of a plan's computation. -/
theorem Answers.computeClosed (h : r.Answers V rs) :
    ComputeClosed (fun m => MismatchesIn V m) r rs :=
  { pure := MismatchesIn.pure
    bind := MismatchesIn.bind
    getState := MismatchesIn.get
    setKind := MismatchesIn.putKind
    modifyHost := fun f _ => MismatchesIn.modifyThe f
    lift := MismatchesIn.liftFault
    get := h.get
    tryGet := h.tryGet }

end Reads

/-- A plan's computation raises a kind mismatch only through its reads: with readers whose
mismatches on the reads the plan lists are all on stages producing a type in `V`, so are its own. -/
theorem Plan.mismatchesIn_compute {r : Reads} {V : ValueType → Prop} {dt : Float32} (p : Plan)
    (h : r.Answers V p.reads) : MismatchesIn V (p.compute dt r) :=
  h.computeClosed.compute p dt

end NodeGraph
