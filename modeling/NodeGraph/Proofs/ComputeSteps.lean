import NodeGraph.Program.Eval

/-!
# The steps of a plan's computation

A plan's computation is made of a few kinds of step: pure steps and binds, the reads it lists
(`Plan.reads`), reads of the state, writes of one node's kind, writes that leave the nodes alone,
and the faults of its operations, none of which is a kind mismatch. A property of computations
closed under these steps (`ComputeClosed`) holds of every plan's computation
(`ComputeClosed.compute`); where kind mismatches can come from, and what evaluation leaves alone,
are two such properties.
-/

namespace NodeGraph

namespace Fault

/-- Whether a fault is a kind mismatch. -/
def isMismatch : Fault → Bool
  | .kindMismatch .. => true
  | _ => false

end Fault

/-- A result that is a value or a fault other than a kind mismatch. -/
def NoMismatchE {α : Type} (x : Except Fault α) : Prop :=
  ∀ e, x = .error e → e.isMismatch = false

section Results

variable {α β : Type}

theorem noMismatchE_pure (a : α) : NoMismatchE (pure a : Except Fault α) := by
  intro e h
  cases h

theorem noMismatchE_ok (a : α) : NoMismatchE (.ok a : Except Fault α) := noMismatchE_pure a

theorem noMismatchE_bind {x : Except Fault α} {f : α → Except Fault β} (hx : NoMismatchE x)
    (hf : ∀ a, NoMismatchE (f a)) : NoMismatchE (x >>= f) := by
  intro e h
  cases hxe : x with
  | error e' =>
    rw [hxe] at h
    cases h
    exact hx _ hxe
  | ok a =>
    rw [hxe] at h
    exact hf a e h

theorem noMismatchE_error {e : Fault} (he : e.isMismatch = false) :
    NoMismatchE (.error e : Except Fault α) := by
  intro e' h
  cases h
  exact he

theorem noMismatchE_ite {c : Prop} [Decidable c] {x y : Except Fault α} (hx : NoMismatchE x)
    (hy : NoMismatchE y) : NoMismatchE (if c then x else y) := by
  split
  · exact hx
  · exact hy

end Results

theorem noMismatchE_clamp (x lo hi : Float32) : NoMismatchE (Number.clamp x lo hi) := by
  unfold Number.clamp
  split
  · exact noMismatchE_ok _
  · exact noMismatchE_error rfl

theorem noMismatchE_repeat (t length : Float32) :
    NoMismatchE (Interpolation.repeat t length) :=
  noMismatchE_clamp _ _ _

theorem noMismatchE_pingPong (t length : Float32) :
    NoMismatchE (Interpolation.pingPong t length) :=
  noMismatchE_bind (noMismatchE_repeat _ _) fun _ => noMismatchE_pure _

theorem MathOp.noMismatchE_apply (op : MathOp) (a b : Float32) : NoMismatchE (op.apply a b) := by
  cases op with
  | «repeat» => exact noMismatchE_repeat a b
  | pingPong => exact noMismatchE_pingPong a b
  | clamp01 => exact noMismatchE_clamp a 0 1
  | _ => exact noMismatchE_pure _

theorem MathOp.noMismatchE_applyInt (op : MathOp) (a b : Int32) :
    NoMismatchE (op.applyInt a b) := by
  -- the integer operations answer directly; the others fall back to the float operation
  cases op with
  | multiply | divide | add | subtract | negative | abs | max | min | closestPowerOfTwo =>
    exact noMismatchE_pure _
  | _ => exact noMismatchE_bind (MathOp.noMismatchE_apply _ _ _) fun _ => noMismatchE_pure _

theorem noMismatchE_mapE (f : Float32 → Except Fault Float32) (v : Vec4)
    (hf : ∀ x, NoMismatchE (f x)) : NoMismatchE (Vec4.mapE f v) :=
  noMismatchE_bind (hf _) fun _ => noMismatchE_bind (hf _) fun _ =>
    noMismatchE_bind (hf _) fun _ => noMismatchE_bind (hf _) fun _ => noMismatchE_pure _

theorem noMismatchE_zipE (f : Float32 → Float32 → Except Fault Float32) (a b : Vec4)
    (hf : ∀ x y, NoMismatchE (f x y)) : NoMismatchE (Vec4.zipE f a b) :=
  noMismatchE_bind (hf _ _) fun _ => noMismatchE_bind (hf _ _) fun _ =>
    noMismatchE_bind (hf _ _) fun _ => noMismatchE_bind (hf _ _) fun _ => noMismatchE_pure _

theorem Curve.noMismatchE_around (keys : List CurveKey) (t : Float32) :
    NoMismatchE (Curve.around keys t) := by
  unfold Curve.around
  -- the two faults are the bounds of the clamp, neither a mismatch
  exact noMismatchE_ite (noMismatchE_error rfl)
    (noMismatchE_ite (noMismatchE_error rfl) (noMismatchE_ok _))

theorem Curve.noMismatchE_evaluate (c : Curve) (t : Float32) : NoMismatchE (c.evaluate t) := by
  unfold Curve.evaluate
  split
  · dsimp only
    split
    · exact noMismatchE_pure _
    · -- the time is wrapped or clamped into the key span; finding the keys around it faults
      -- on its bounds only, and the blend cannot fault
      split
      case h_1 =>
        refine noMismatchE_bind (noMismatchE_repeat _ _) fun _ =>
          noMismatchE_bind (noMismatchE_pure _) fun _ =>
            noMismatchE_bind (Curve.noMismatchE_around _ _) fun _ => ?_
        split <;> (try split) <;> exact noMismatchE_pure _
      case h_2 =>
        refine noMismatchE_bind (noMismatchE_pingPong _ _) fun _ =>
          noMismatchE_bind (noMismatchE_pure _) fun _ =>
            noMismatchE_bind (Curve.noMismatchE_around _ _) fun _ => ?_
        split <;> (try split) <;> exact noMismatchE_pure _
      case h_3 =>
        refine noMismatchE_bind (noMismatchE_clamp _ _ _) fun _ =>
          noMismatchE_bind (Curve.noMismatchE_around _ _) fun _ => ?_
        split <;> (try split) <;> exact noMismatchE_pure _
  · exact noMismatchE_pure _

theorem Ramp.noMismatchE_sample {κ : Type} (keys : List κ) (pos : Float32) (mode : RampMode)
    (time : κ → Float32) (value : κ → Vec4) :
    NoMismatchE (Ramp.sample keys pos mode time value) := by
  unfold Ramp.sample
  split
  · split
    · exact noMismatchE_ok _
    split
    · exact noMismatchE_ok _
    dsimp only
    split
    · -- the one fault: no key before the time
      exact noMismatchE_error rfl
    split
    · split
      · exact noMismatchE_ok _
      · split <;> exact noMismatchE_ok _
    · exact noMismatchE_ok _
  · exact noMismatchE_ok _

theorem Ramp.noMismatchE_evaluate (r : Ramp) (t : Float32) : NoMismatchE (r.evaluate t) :=
  noMismatchE_bind (Ramp.noMismatchE_sample _ _ _ _ _) fun _ =>
    noMismatchE_bind (Ramp.noMismatchE_sample _ _ _ _ _) fun _ => noMismatchE_pure _

theorem LimitMode.noMismatchE_apply (m : LimitMode) (time limit : Float32) :
    NoMismatchE (m.apply time limit) := by
  unfold LimitMode.apply
  split
  · exact noMismatchE_ok _
  · cases m with
    | «repeat» => exact noMismatchE_repeat _ _
    | pingPong => exact noMismatchE_pingPong _ _
    | _ => exact noMismatchE_ok _

theorem TimerSettings.noMismatchE_show (s : TimerSettings) (elapsed : Float32) :
    NoMismatchE (s.show elapsed) :=
  noMismatchE_bind (LimitMode.noMismatchE_apply _ _ _) fun _ => noMismatchE_pure _

/-! ## What a plan reads -/

/-- The type a scalar operand of type `t` is read as: integers as integers, all else as floats. -/
def scalarRead (t : ValueType) : ValueType := if t = .int then .int else .float

namespace Plan

/-- Every input a plan may read, by slot and type. A plan reads nothing else; branches and the
short-circuiting boolean operations read some of these only on some ticks. -/
def reads : Plan → List (Nat × ValueType)
  | .constant .. | .random _ | .propertyRead .. => []
  | .store _ t | .propertyWrite _ t => [(0, t)]
  | .curve _ | .ramp _ => [(0, .float)]
  | .mathInt _ binary => (0, .int) :: if binary then [(1, .int)] else []
  | .mathFloat _ a b => [(0, scalarRead a), (1, scalarRead b)]
  | .mathUnary _ s | .convert _ s | .spring _ s .. | .delta _ s => [(0, s.type)]
  | .mathLanes _ s .both => [(0, s.type), (1, s.type)]
  | .mathLanes _ s (.scalarRight b) => [(1, scalarRead b), (0, s.type)]
  | .mathLanes _ s (.scalarLeft a) => [(0, scalarRead a), (1, s.type)]
  | .lerpInt => [(0, .int), (1, .int), (2, .float)]
  | .lerpLanes s => [(2, .float), (0, s.type), (1, s.type)]
  | .condition .. => [(0, .float), (1, .float)]
  | .branch t => [(0, .bool), (1, t), (2, t)]
  | .boolOp op _ => (0, .bool) :: if op.usesB then [(1, .bool)] else []
  | .modify s => (0, s.type) :: (List.range s.count).map fun c => (c + 1, .float)
  | .construct s => (List.range s.count).map fun c => (c, .float)
  | .hsv .rgbToHsv => [(0, .color)]
  | .hsv .hsvToRgb => [(0, .vector3)]
  | .hsv .hsvValuesToRgb => [(0, .float), (1, .float), (2, .float)]
  | .vector op s =>
    match op with
    | .normalize | .length => [(0, s.type)]
    | .cross | .projectOnPlane => [(0, .vector3), (1, .vector3)]
    | _ => [(0, s.type), (1, s.type)]
  | .multiply q v t =>
    match t with
    | .vector4 => [(0, .vector4), (1, .vector4)]
    | .vector3 => [(q, .vector4), (v, .vector3)]
    | _ => [(q, .vector4), (v, .vector2)]
  | .quaternion op =>
    match op with
    | .fromEuler => [(0, .vector3)]
    | .toEuler | .inverse => [(0, .vector4)]
    | .fromToRotation => [(0, .vector3), (1, .vector3)]
    | .axisAngle => [(0, .float), (1, .vector3)]
    | .lerpUnclamped | .slerpUnclamped => [(0, .vector4), (1, .vector4), (2, .float)]
    | .lookRotation => [(1, .vector3), (0, .vector3)]
    | .multiply => [(0, .vector4), (1, .vector4)]
  | .swizzle source _ => [(0, source)]
  | .dozer _ s _ => [(1, .bool), (0, s.type)]
  | .timer .. => [(0, .bool)]
  | .perlin => [(0, .int), (1, .int), (2, .int), (3, .float), (4, .vector2)]

end Plan

/-! ## Properties closed under the steps -/

/-- A property of computations that pure steps, reads of the state, writes of a node's kind,
writes that leave the nodes alone, faults other than kind mismatches and the reads in `rs` all
have, and that binds keep. -/
structure ComputeClosed (P : ∀ {α : Type}, EvalM α → Prop) (r : Reads)
    (rs : List (Nat × ValueType)) : Prop where
  pure {α : Type} (a : α) : P (Pure.pure a : EvalM α)
  bind {α β : Type} {x : EvalM α} {f : α → EvalM β} : P x → (∀ a, P (f a)) → P (x >>= f)
  getState : P (MonadState.get : EvalM Run)
  setKind (id : NodeId) (k : Kind) : P (putKind id k)
  modifyHost (f : Run → Run) : (∀ s, (f s).nodes = s.nodes) → P (modifyThe Run f)
  lift {α : Type} {x : Except Fault α} : NoMismatchE x → P (liftFault x)
  get {k : Nat} {t : ValueType} : (k, t) ∈ rs → P (r.get k t)
  tryGet {k : Nat} {t : ValueType} : (k, t) ∈ rs → P (r.tryGet k t)

namespace ComputeClosed

variable {P : ∀ {α : Type}, EvalM α → Prop} {r : Reads} {rs : List (Nat × ValueType)} {α : Type}

theorem kindAt (hP : ComputeClosed P r rs) (id : NodeId) : P (kindAt id) :=
  hP.bind hP.getState fun _ => hP.pure _

theorem foldlM {γ : Type} (hP : ComputeClosed P r rs) (f : α → γ → EvalM α) (init : α)
    (xs : List γ) (hf : ∀ a x, x ∈ xs → P (f a x)) : P (xs.foldlM f init) := by
  induction xs generalizing init with
  | nil => exact hP.pure _
  | cons x xs ih =>
    rw [List.foldlM_cons]
    exact hP.bind (hf _ _ (List.mem_cons_self ..)) fun a =>
      ih a fun b y hy => hf b y (List.mem_cons_of_mem _ hy)

theorem mapM {γ : Type} (hP : ComputeClosed P r rs) (f : γ → EvalM α) (xs : List γ)
    (hf : ∀ x, x ∈ xs → P (f x)) : P (xs.mapM f) := by
  induction xs with
  | nil => exact hP.pure _
  | cons x xs ih =>
    rw [List.mapM_cons]
    exact hP.bind (hf x (List.mem_cons_self ..)) fun _ =>
      hP.bind (ih fun y hy => hf y (List.mem_cons_of_mem _ hy)) fun _ => hP.pure _

theorem getAs (hP : ComputeClosed P r rs) {k : Nat} {t : ValueType} (hm : (k, t) ∈ rs)
    (f : Value → α) : P (r.get k t >>= fun v => Pure.pure (f v)) :=
  hP.bind (hP.get hm) fun _ => hP.pure _

theorem lanes (hP : ComputeClosed P r rs) {k : Nat} {s : Shape} (hm : (k, s.type) ∈ rs) :
    P (r.lanes k s) :=
  hP.bind (hP.get hm) fun _ => hP.pure _

theorem scalar (hP : ComputeClosed P r rs) {k : Nat} {t : ValueType} (hm : (k, scalarRead t) ∈ rs) :
    P (r.scalar k t) := by
  unfold Reads.scalar
  -- an integer operand is read as an integer, any other as a float
  split
  · next hint =>
    rw [scalarRead, if_pos hint] at hm
    exact hP.bind (hP.get hm) fun _ => hP.pure _
  · next hint =>
    rw [scalarRead, if_neg hint] at hm
    exact hP.bind (hP.get hm) fun _ => hP.pure _

/- Each lemma below runs one family of plans bind by bind, in the order the run reads its slots:
every read is one the plan lists, and every other step is one the property is closed under. -/

theorem mathLanesValue {op : MathOp} {s : Shape} {operands : Operands}
    (hP : ComputeClosed P r (Plan.mathLanes op s operands).reads) :
    P (Plan.mathLanesValue op s operands r) := by
  have hmap : ∀ (f : Float32 → Except Fault Float32), (∀ x, NoMismatchE (f x)) → ∀ a,
      P (liftFault (Vec4.mapE f a)) := fun f hf a =>
    hP.lift (noMismatchE_mapE f a hf)
  unfold Plan.mathLanesValue
  cases operands with
  | both =>
    exact hP.bind (hP.lanes (by simp [Plan.reads])) fun _ =>
      hP.bind (hP.lanes (by simp [Plan.reads])) fun _ =>
        hP.bind (hP.lift (noMismatchE_zipE _ _ _
          (MathOp.noMismatchE_apply op))) fun _ => hP.pure _
  | scalarRight b =>
    exact hP.bind (hP.scalar (by simp [Plan.reads])) fun _ =>
      hP.bind (hP.lanes (by simp [Plan.reads])) fun _ =>
        hP.bind (hmap _ (fun _ => MathOp.noMismatchE_apply op _ _) _) fun _ =>
          hP.pure _
  | scalarLeft a =>
    exact hP.bind (hP.scalar (by simp [Plan.reads])) fun _ =>
      hP.bind (hP.lanes (by simp [Plan.reads])) fun _ =>
        hP.bind (hmap _ (fun _ => MathOp.noMismatchE_apply op _ _) _) fun _ =>
          hP.pure _

theorem vectorValue {op : VectorOp} {s : Shape} (hP : ComputeClosed P r (Plan.vector op s).reads) :
    P (Plan.vectorValue op s r) := by
  unfold Plan.vectorValue
  cases op with
  | dot | distance | project | reflect =>
    exact hP.bind (hP.lanes (by simp [Plan.reads])) fun _ =>
      hP.bind (hP.lanes (by simp [Plan.reads])) fun _ =>
        hP.pure _
  | normalize | length =>
    exact hP.bind (hP.lanes (by simp [Plan.reads])) fun _ =>
      hP.pure _
  | cross =>
    exact hP.bind (hP.get (by simp [Plan.reads])) fun _ =>
      hP.bind (hP.get (by simp [Plan.reads])) fun _ => hP.pure _
  | projectOnPlane =>
    exact hP.bind (hP.lanes (by simp [Plan.reads, Shape.type]))
      fun _ => hP.bind (hP.lanes
        (by simp [Plan.reads, Shape.type])) fun _ => hP.pure _

theorem quaternionValue {op : QuaternionOp} (hP : ComputeClosed P r (Plan.quaternion op).reads) :
    P (Plan.quaternionValue op r) := by
  unfold Plan.quaternionValue
  -- each operand is one read, as a rotation, a direction or a float
  cases op with
  | fromEuler | toEuler | inverse =>
    exact hP.bind (hP.getAs (by simp [Plan.reads]) _) fun _ => hP.pure _
  | fromToRotation | axisAngle | multiply =>
    exact hP.bind (hP.getAs (by simp [Plan.reads]) _) fun _ =>
      hP.bind (hP.getAs (by simp [Plan.reads]) _) fun _ => hP.pure _
  | lerpUnclamped | slerpUnclamped =>
    exact hP.bind (hP.getAs (by simp [Plan.reads]) _) fun _ =>
      hP.bind (hP.getAs (by simp [Plan.reads]) _) fun _ =>
        hP.bind (hP.getAs (by simp [Plan.reads]) _) fun _ => hP.pure _
  | lookRotation =>
    exact hP.bind (hP.tryGet (by simp [Plan.reads])) fun _ =>
      hP.bind (hP.getAs (by simp [Plan.reads]) _) fun _ => hP.pure _

theorem multiplyValue {q v : Nat} {t : ValueType}
    (hP : ComputeClosed P r (Plan.multiply q v t).reads) : P (Plan.multiplyValue q v t r) := by
  unfold Plan.multiplyValue
  -- the reads the plan lists depend on the type of the vector turned
  split <;> exact hP.bind (hP.get (by simp_all [Plan.reads])) fun _ =>
    hP.bind (hP.get (by simp_all [Plan.reads])) fun _ => hP.pure _

theorem boolValue {op : BoolOp} {node : NodeId}
    (hP : ComputeClosed P r (Plan.boolOp op node).reads) : P (Plan.boolValue op node r) := by
  unfold Plan.boolValue
  dsimp only
  cases op with
  | invertA => exact hP.bind (hP.getAs (by simp [Plan.reads]) _) fun _ => hP.pure _
  | triggerA =>
    -- a trigger keeps the input it saw last in its node
    refine hP.bind (hP.getAs (by simp [Plan.reads]) _) fun _ =>
      hP.bind (hP.kindAt node) fun _ => ?_
    split
    · exact hP.bind (hP.setKind _ _) fun _ => hP.pure _
    · exact hP.pure _
  | equal | xor =>
    exact hP.bind (hP.getAs (by simp [Plan.reads]) _) fun _ =>
      hP.bind (hP.getAs (by simp [Plan.reads, BoolOp.usesB]) _) fun _ => hP.pure _
  | or =>
    -- the second input is read only when the first does not decide
    refine hP.bind (hP.getAs (by simp [Plan.reads]) _) fun _ => ?_
    split
    · exact hP.pure _
    · exact hP.getAs (by simp [Plan.reads, BoolOp.usesB]) _
  | and =>
    refine hP.bind (hP.getAs (by simp [Plan.reads]) _) fun _ => ?_
    split
    · exact hP.getAs (by simp [Plan.reads, BoolOp.usesB]) _
    · exact hP.pure _

theorem constantValue {rs : List (Nat × ValueType)} (hP : ComputeClosed P r rs) (node : NodeId)
    (t : ValueType) : P (Plan.constantValue node t) := by
  unfold Plan.constantValue
  refine hP.bind (hP.kindAt node) fun _ => ?_
  split <;> exact hP.pure _

/-- A property closed under the steps of a plan's computation, with readers answering the reads
the plan lists, holds of the computation. -/
theorem compute (p : Plan) (hP : ComputeClosed P r p.reads) (dt : Float32) :
    P (p.compute dt r) := by
  -- each plan reads some of its listed inputs, reads and writes the state, and lifts the faults
  -- of its operations, none of them a mismatch
  cases p with
  | constant node t =>
    exact hP.bind (hP.constantValue node t) fun _ => hP.pure _
  | store node t =>
    refine hP.bind (hP.get (by simp [Plan.reads])) fun _ => ?_
    refine hP.bind (hP.kindAt node) fun _ => ?_
    split
    · exact hP.bind (hP.setKind _ _) fun _ => hP.pure _
    · exact hP.pure _
  | curve node =>
    refine hP.bind (hP.get (by simp [Plan.reads])) fun _ => ?_
    refine hP.bind (hP.kindAt node) fun _ => ?_
    split
    · exact hP.bind (hP.lift (Curve.noMismatchE_evaluate _ _)) fun _ =>
        hP.pure _
    · exact hP.pure _
  | ramp node =>
    refine hP.bind (hP.get (by simp [Plan.reads])) fun _ => ?_
    refine hP.bind (hP.kindAt node) fun _ => ?_
    split
    · exact hP.bind (hP.lift (Ramp.noMismatchE_evaluate _ _)) fun _ =>
        hP.pure _
    · exact hP.pure _
  | mathInt op binary =>
    have happly : ∀ a b, P (liftFault (op.applyInt a b)) := fun _ _ =>
      hP.lift (MathOp.noMismatchE_applyInt _ _ _)
    refine hP.bind (hP.get (by simp [Plan.reads])) fun _ => ?_
    dsimp only
    -- the second operand is read only by a two-operand operation
    split
    · next hb =>
      refine hP.bind (hP.get (by simp [Plan.reads, hb])) fun _ => ?_
      exact hP.bind (hP.pure _) fun _ =>
        hP.bind (happly _ _) fun _ => hP.pure _
    · exact hP.bind (hP.pure _) fun _ =>
        hP.bind (happly _ _) fun _ => hP.pure _
  | mathFloat op a b =>
    refine hP.bind (hP.scalar (by simp [Plan.reads])) fun _ => ?_
    refine hP.bind (hP.scalar (by simp [Plan.reads])) fun _ => ?_
    exact hP.bind (hP.lift (MathOp.noMismatchE_apply _ _ _)) fun _ =>
      hP.pure _
  | mathUnary op s =>
    refine hP.bind (hP.lanes (by simp [Plan.reads])) fun _ => ?_
    exact hP.bind (hP.lift
      (noMismatchE_mapE _ _ fun _ => MathOp.noMismatchE_apply _ _ _)) fun _ => hP.pure _
  | mathLanes op s operands =>
    exact hP.bind hP.mathLanesValue fun _ => hP.pure _
  | convert factor s =>
    exact hP.bind (hP.lanes (by simp [Plan.reads])) fun _ =>
      hP.pure _
  | lerpInt =>
    refine hP.bind (hP.get (by simp [Plan.reads])) fun _ => ?_
    refine hP.bind (hP.get (by simp [Plan.reads])) fun _ => ?_
    exact hP.bind (hP.get (by simp [Plan.reads])) fun _ => hP.pure _
  | lerpLanes s =>
    refine hP.bind (hP.get (by simp [Plan.reads])) fun _ => ?_
    refine hP.bind (hP.lanes (by simp [Plan.reads])) fun _ => ?_
    exact hP.bind (hP.lanes (by simp [Plan.reads])) fun _ =>
      hP.pure _
  | condition op invert =>
    refine hP.bind (hP.get (by simp [Plan.reads])) fun _ => ?_
    exact hP.bind (hP.get (by simp [Plan.reads])) fun _ => hP.pure _
  | branch t =>
    refine hP.bind (hP.get (by simp [Plan.reads])) fun _ => ?_
    split
    · exact hP.bind (hP.get (by simp [Plan.reads])) fun _ => hP.pure _
    · exact hP.bind (hP.get (by simp [Plan.reads])) fun _ => hP.pure _
  | boolOp op node =>
    exact hP.bind hP.boolValue fun _ => hP.pure _
  | modify s =>
    -- the base vector, then one optional float per lane
    refine hP.bind (hP.tryGet (by simp [Plan.reads])) fun _ => ?_
    refine hP.bind (hP.foldlM _ _ _ fun _ c hc => ?_) fun _ => hP.pure _
    refine hP.bind (hP.tryGet (by simpa [Plan.reads] using hc)) fun _ => ?_
    split <;> exact hP.pure _
  | construct s =>
    refine hP.bind (hP.mapM _ _ fun c hc => ?_) fun _ => hP.pure _
    exact hP.bind (hP.get (by simpa [Plan.reads] using hc)) fun _ => hP.pure _
  | hsv op =>
    cases op with
    | rgbToHsv =>
      refine hP.bind (hP.get (by simp [Plan.reads])) fun _ => ?_
      split <;> exact hP.pure _
    | hsvToRgb => exact hP.bind (hP.get (by simp [Plan.reads])) fun _ => hP.pure _
    | hsvValuesToRgb =>
      refine hP.bind (hP.get (by simp [Plan.reads])) fun _ => ?_
      refine hP.bind (hP.get (by simp [Plan.reads])) fun _ => ?_
      exact hP.bind (hP.get (by simp [Plan.reads])) fun _ => hP.pure _
  | vector op s => exact hP.bind hP.vectorValue fun _ => hP.pure _
  | multiply q v t =>
    exact hP.bind hP.multiplyValue fun _ => hP.pure _
  | quaternion op =>
    exact hP.bind hP.quaternionValue fun _ => hP.pure _
  | swizzle source s =>
    -- an integer source is read as an integer and spread over the lanes
    dsimp only [Plan.compute]
    split
    · next hint =>
      refine hP.bind (hP.get (by simp [Plan.reads, hint])) fun _ => ?_
      exact hP.bind (hP.pure _) fun _ => hP.pure _
    · refine hP.bind (hP.get (by simp [Plan.reads])) fun _ => ?_
      exact hP.bind (hP.pure _) fun _ => hP.pure _
  | spring node s hardness factor =>
    refine hP.bind (hP.lanes (by simp [Plan.reads])) fun _ => ?_
    refine hP.bind (hP.kindAt node) fun _ => ?_
    split
    · exact hP.bind (hP.setKind _ _) fun _ => hP.pure _
    · exact hP.pure _
  | delta node s =>
    refine hP.bind (hP.lanes (by simp [Plan.reads])) fun _ => ?_
    refine hP.bind (hP.kindAt node) fun _ => ?_
    split
    · exact hP.bind (hP.setKind _ _) fun _ => hP.pure _
    · exact hP.pure _
  | dozer node s freeze =>
    refine hP.bind (hP.get (by simp [Plan.reads])) fun _ => ?_
    lift_lets
    intro update jp
    -- either way the node's held value is read and written back
    have hjp : ∀ fresh, P (jp fresh) := by
      intro fresh
      simp only [jp]
      refine hP.bind (hP.kindAt node) fun _ => ?_
      split
      · exact hP.bind (hP.setKind _ _) fun _ => hP.pure _
      · exact hP.pure _
    clear_value jp
    -- a fresh value is read only when the update input is set
    split
    · exact hP.bind (hP.lanes (by simp [Plan.reads])) fun _ =>
        hP.bind (hP.pure _) fun _ => hjp _
    · exact hP.bind (hP.pure _) fun _ => hjp _
  | timer node settings =>
    have hshow : ∀ t, P (liftFault (settings.show t)) := fun _ =>
      hP.lift (TimerSettings.noMismatchE_show _ _)
    refine hP.bind (hP.kindAt node) fun _ => ?_
    split
    · refine hP.bind (hP.setKind _ _) fun _ => ?_
      refine hP.bind (hP.get (by simp [Plan.reads])) fun _ => ?_
      dsimp only
      -- the reset input sets the time back to zero before it is shown
      split
      · exact hP.bind (hP.setKind _ _) fun _ =>
          hP.bind (hP.pure _) fun _ =>
            hP.bind (hshow _) fun _ => hP.pure _
      · exact hP.bind (hP.pure _) fun _ =>
          hP.bind (hshow _) fun _ => hP.pure _
    · exact hP.pure _
  | random op => exact hP.pure _
  | perlin =>
    refine hP.bind (hP.get (by simp [Plan.reads])) fun _ => ?_
    refine hP.bind (hP.get (by simp [Plan.reads])) fun _ => ?_
    refine hP.bind (hP.get (by simp [Plan.reads])) fun _ => ?_
    refine hP.bind (hP.get (by simp [Plan.reads])) fun _ => ?_
    exact hP.bind (hP.get (by simp [Plan.reads])) fun _ => hP.pure _
  | propertyRead address t =>
    refine hP.bind hP.getState fun _ => ?_
    split <;> exact hP.pure _
  | propertyWrite address t =>
    refine hP.bind (hP.get (by simp [Plan.reads])) fun _ => ?_
    refine hP.bind hP.getState fun _ => ?_
    dsimp only
    split
    · split
      · exact hP.bind (hP.modifyHost _ fun _ => rfl) fun _ => hP.pure _
      · exact hP.bind (hP.modifyHost _ fun _ => rfl) fun _ => hP.pure _
    · exact hP.pure _

end ComputeClosed

end NodeGraph
