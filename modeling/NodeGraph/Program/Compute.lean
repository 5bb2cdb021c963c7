import NodeGraph.Program.Build
import NodeGraph.Noise.Perlin

/-!
# What a stage computes

`Plan.compute` runs one plan: it reads the stage's inputs through the given readers, in the order
the plan fixes, reads and writes the state of its node, and returns the plan's value (`none` for a
plan that produces nothing). The order of reads matters: reads can fault, and a branch reads only
the input it picks; `or` and `and` read their second input only when the first does not decide.

Component-wise operations run on all four lanes in order and keep the lanes of the output's shape.
-/

namespace NodeGraph

/-- The state evaluation reads and writes: the graph's nodes (for node state), the host
properties, what each stage kept, the events raised, and the positions of the stages whose plans
ran, in the order they ran. -/
structure Run where
  nodes : List Node
  props : Option Properties
  memos : Array (Option Memo)
  events : List Event := []
  ran : List Nat := []

/-- Evaluation: state that persists across stages, and faults that stop it. -/
abbrev EvalM := StateT Run (Except Fault)

/-- The value a missing input reads as. -/
def zeroValue (t : ValueType) : Value := (Value.zeroOf? t).getD (.float 0)

/-- How a stage reads its inputs: `get` reads input `k` as type `t` (zero when it has no
source), `tryGet` gives `none` when it has no source. -/
structure Reads where
  get : Nat → ValueType → EvalM Value
  tryGet : Nat → ValueType → EvalM (Option Value)

namespace Run

/-- The kind of the node with an id. -/
def kindOf (r : Run) (id : NodeId) : Option Kind := (r.nodes.find? (·.id == id)).map (·.kind)

/-- Replaces the kind of the node with an id. -/
def setKind (r : Run) (id : NodeId) (k : Kind) : Run :=
  { r with nodes := r.nodes.map fun n => if n.id == id then { n with kind := k } else n }

end Run

/-- The kind of a node during evaluation. -/
def kindAt (id : NodeId) : EvalM (Option Kind) := do return (← get).kindOf id

/-- Replaces the kind of a node during evaluation. -/
def putKind (id : NodeId) (k : Kind) : EvalM Unit := modify (·.setKind id k)

/-- Lifts a computation that may fault. -/
def liftFault {α : Type} (x : Except Fault α) : EvalM α :=
  match x with
  | .ok a => pure a
  | .error e => throw e

/-- A fallible function applied to the four lanes in order. -/
def Vec4.mapE (f : Float32 → Except Fault Float32) (v : Vec4) : Except Fault Vec4 := do
  let x ← f v.x
  let y ← f v.y
  let z ← f v.z
  let w ← f v.w
  pure ⟨x, y, z, w⟩

/-- A fallible function applied to two lane sets, lane by lane in order. -/
def Vec4.zipE (f : Float32 → Float32 → Except Fault Float32) (a b : Vec4) : Except Fault Vec4 := do
  let x ← f a.x b.x
  let y ← f a.y b.y
  let z ← f a.z b.z
  let w ← f a.w b.w
  pure ⟨x, y, z, w⟩

namespace Reads

/-- Reads a scalar operand of type `t` as a float: integers are widened. -/
def scalar (r : Reads) (k : Nat) (t : ValueType) : EvalM Float32 := do
  if t = .int then return Number.ofInt (← r.get k .int).asInt
  else return (← r.get k .float).asFloat

/-- Reads an input as lanes of a shape. -/
def lanes (r : Reads) (k : Nat) (s : Shape) : EvalM Lanes := do
  return (← r.get k s.type).lanes

end Reads

/-- The lanes of a shape past its count, set to zero. -/
def Shape.trim (s : Shape) (v : Lanes) : Lanes := (Shape.ofLanes s v).lanes

namespace Plan

/-- Runs a math operation on lanes read as the plan's operands. -/
def mathLanesValue (op : MathOp) (s : Shape) (operands : Operands) (r : Reads) : EvalM Value := do
  let out ← match operands with
    | .both => do
      let a ← r.lanes 0 s
      let b ← r.lanes 1 s
      liftFault (Vec4.zipE op.apply a b)
    | .scalarRight b => do
      let y ← r.scalar 1 b
      let a ← r.lanes 0 s
      liftFault (Vec4.mapE (op.apply · y) a)
    | .scalarLeft a => do
      let x ← r.scalar 0 a
      let b ← r.lanes 1 s
      liftFault (Vec4.mapE (op.apply x ·) b)
  return Shape.ofLanes s out

/-- Runs a vector operation. -/
def vectorValue (op : VectorOp) (s : Shape) (r : Reads) : EvalM Value := do
  let n := s.count
  match op with
  | .dot => return .float (LaneOps.shapeDot s (← r.lanes 0 s) (← r.lanes 1 s))
  | .normalize => return Shape.ofLanes s (LaneOps.normalizeOrZero n (← r.lanes 0 s))
  | .length => return .float (LaneOps.length n (← r.lanes 0 s))
  | .distance =>
    let a ← r.lanes 0 s
    let b ← r.lanes 1 s
    return .float (LaneOps.length n (Vec4.zipWith (· - ·) (s.trim a) (s.trim b)))
  | .cross =>
    let a := (← r.get 0 .vector3).asVec3
    let b := (← r.get 1 .vector3).asVec3
    return .vector3 (Vec3.cross a b)
  | .project => return Shape.ofLanes s (LaneOps.project n (← r.lanes 0 s) (← r.lanes 1 s))
  | .projectOnPlane =>
    let v ← r.lanes 0 .vector3
    let nrm ← r.lanes 1 .vector3
    let p := LaneOps.project 3 v nrm
    return .vector3 ⟨v.x - p.x, v.y - p.y, v.z - p.z⟩
  | .reflect => return Shape.ofLanes s (LaneOps.reflect n (← r.lanes 0 s) (← r.lanes 1 s))

/-- Runs a quaternion operation other than the product. -/
def quaternionValue (op : QuaternionOp) (r : Reads) : EvalM Value := do
  let vec3 (k : Nat) : EvalM Vec3 := do return (← r.get k .vector3).asVec3
  let vec4 (k : Nat) : EvalM Vec4 := do return (← r.get k .vector4).asVec4
  let float (k : Nat) : EvalM Float32 := do return (← r.get k .float).asFloat
  match op with
  | .fromEuler => return .vector4 (Rotation.ofEulerDegrees (← vec3 0))
  | .toEuler => return .vector3 (Rotation.toEulerDegrees (← vec4 0))
  | .fromToRotation =>
    let a ← vec3 0
    let b ← vec3 1
    return .vector4 (Rotation.fromTo a b)
  | .axisAngle =>
    let angle ← float 0
    let axis ← vec3 1
    return .vector4 (Rotation.axisAngle angle axis)
  | .inverse => return .vector4 (Vec4.conjugate (← vec4 0))
  | .lerpUnclamped =>
    let a ← vec4 0
    let b ← vec4 1
    let t ← float 2
    return .vector4 (Rotation.lerp a b t)
  | .slerpUnclamped =>
    let a ← vec4 0
    let b ← vec4 1
    let t ← float 2
    return .vector4 (Interpolation.slerp a b t)
  | .lookRotation =>
    let up := ((← r.tryGet 1 .vector3).map Value.asVec3).getD Vec3.unitY
    let forward ← vec3 0
    return .vector4 (Rotation.look forward up)
  | .multiply =>
    let a ← vec4 0
    let b ← vec4 1
    return .vector4 (Vec4.mulQuat a b)

/-- Runs a quaternion product of input `q` with input `v` of type `t`. -/
def multiplyValue (q v : Nat) (t : ValueType) (r : Reads) : EvalM Value := do
  match t with
  | .vector4 =>
    let a := (← r.get 0 .vector4).asVec4
    let b := (← r.get 1 .vector4).asVec4
    return .vector4 (Vec4.mulQuat a b)
  | .vector3 =>
    let rot := (← r.get q .vector4).asVec4
    let x := (← r.get v .vector3).asVec3
    return .vector3 (Vec4.rotate rot x)
  | _ =>
    let rot := (← r.get q .vector4).asVec4
    let x := (← r.get v .vector2).asVec2
    let y := Vec4.rotate rot ⟨x.x, x.y, 0⟩
    return .vector2 ⟨y.x, y.y⟩

/-- Runs a boolean operation; a trigger compares its input with the one it saw last. -/
def boolValue (op : BoolOp) (node : NodeId) (r : Reads) : EvalM Bool := do
  let flag (k : Nat) : EvalM Bool := do return (← r.get k .bool).asBool
  match op with
  | .invertA => return !(← flag 0)
  | .triggerA =>
    let v ← flag 0
    match ← kindAt node with
    | some (.boolOperator o last) =>
      putKind node (.boolOperator o v)
      return last != v
    | _ => return false != v
  | .equal =>
    let a ← flag 0
    let b ← flag 1
    return a == b
  | .or => if ← flag 0 then return true else flag 1
  | .and => if ← flag 0 then flag 1 else return false
  | .xor =>
    let a ← flag 0
    let b ← flag 1
    return a ^^ b

/-- The constant of a value or default node as a value of type `t`. -/
def constantValue (node : NodeId) (t : ValueType) : EvalM Value := do
  match ← kindAt node with
  | some (.value _ _ _ c) | some (.fallback c) => return c.toValue
  | _ => return zeroValue t

/-- Runs a plan of a stage in a tick of step `dt`. -/
def compute (p : Plan) (dt : Float32) (r : Reads) : EvalM (Option Value) := do
  match p with
  | .constant node t => return some (← constantValue node t)
  | .store node t =>
    let v ← r.get 0 t
    match ← kindAt node, Constant.ofValue? v with
    | some (.value n e io c), some c' =>
      putKind node (.value n e io ((c.replace c').getD c))
    | _, _ => pure ()
    return none
  | .curve node =>
    let t := (← r.get 0 .float).asFloat
    match ← kindAt node with
    | some (.curve _ _ c) => return some (.float (← liftFault (c.evaluate t)))
    | _ => return some (.float 0)
  | .ramp node =>
    let t := (← r.get 0 .float).asFloat
    match ← kindAt node with
    | some (.ramp _ _ rp) => return some (.color (Color.ofLanes (← liftFault (rp.evaluate t))))
    | _ => return some (.color Color.zero)
  | .mathInt op binary =>
    let a := (← r.get 0 .int).asInt
    let b ← if binary then do pure (← r.get 1 .int).asInt else pure 0
    return some (.int (← liftFault (op.applyInt a b)))
  | .mathFloat op a b =>
    let x ← r.scalar 0 a
    let y ← r.scalar 1 b
    return some (.float (← liftFault (op.apply x y)))
  | .mathUnary op s =>
    let v ← r.lanes 0 s
    return some (Shape.ofLanes s (← liftFault (Vec4.mapE (op.apply · 0) v)))
  | .mathLanes op s operands => return some (← mathLanesValue op s operands r)
  | .convert factor s => return some (Shape.ofLanes s ((← r.lanes 0 s).map (· * factor)))
  | .lerpInt =>
    let a := Number.ofInt (← r.get 0 .int).asInt
    let b := Number.ofInt (← r.get 1 .int).asInt
    let t := (← r.get 2 .float).asFloat
    return some (.int (Number.toInt (Interpolation.lerp a b t)))
  | .lerpLanes s =>
    let t := (← r.get 2 .float).asFloat
    let a ← r.lanes 0 s
    let b ← r.lanes 1 s
    return some (Shape.ofLanes s (Interpolation.lerp4 a b t))
  | .condition op inv =>
    let a := (← r.get 0 .float).asFloat
    let b := (← r.get 1 .float).asFloat
    return some (.bool (op.test a b ^^ inv))
  | .branch t =>
    if (← r.get 0 .bool).asBool then return some (← r.get 1 t) else return some (← r.get 2 t)
  | .boolOp op node => return some (.bool (← boolValue op node r))
  | .modify s =>
    let base := ((← r.tryGet 0 s.type).map Value.lanes).getD Vec4.zero
    let lanes ← (List.range s.count).foldlM (fun acc c => do
      match ← r.tryGet (c + 1) .float with
      | some v => pure (acc.set c v.asFloat)
      | none => pure acc) base
    return some (Shape.ofLanes s lanes)
  | .construct s =>
    let xs ← (List.range s.count).mapM fun c => do pure (← r.get c .float).asFloat
    return some (Shape.ofLanes s (Vec4.ofList xs))
  | .hsv op =>
    match op with
    | .rgbToHsv =>
      match ← r.get 0 .color with
      | .color c => return some (.vector3 (Color.toHsv c))
      | _ => return some (.vector3 (Color.toHsv Color.zero))
    | .hsvToRgb =>
      let v := (← r.get 0 .vector3).asVec3
      return some (.color (Color.ofHsv v.x v.y v.z))
    | .hsvValuesToRgb =>
      let h := (← r.get 0 .float).asFloat
      let s := (← r.get 1 .float).asFloat
      let v := (← r.get 2 .float).asFloat
      return some (.color (Color.ofHsv h s v))
  | .vector op s => return some (← vectorValue op s r)
  | .multiply q v t => return some (← multiplyValue q v t r)
  | .quaternion op => return some (← quaternionValue op r)
  | .swizzle source s =>
    let src ← if source = .int then do
        let x := Number.ofInt (← r.get 0 .int).asInt
        pure (⟨x, x, x, x⟩ : Lanes)
      else do pure (← r.get 0 source).lanes
    return some (Shape.ofLanes s.shape (s.apply src))
  | .spring node s hardness factor =>
    let input ← r.lanes 0 s
    let decay := factor.pow dt
    match ← kindAt node with
    | some (.spring h d m) =>
      let m := m.step s.count input hardness decay
      putKind node (.spring h d m)
      return some (Shape.ofLanes s m.current)
    | _ => return some (zeroValue s.type)
  | .delta node s =>
    let v ← r.lanes 0 s
    match ← kindAt node with
    | some (.delta last) =>
      putKind node (.delta v)
      return some (Shape.ofLanes s (Vec4.zipWith (· - ·) (s.trim v) (s.trim last)))
    | _ => return some (zeroValue s.type)
  | .dozer node s freeze =>
    let update := (← r.get 1 .bool).asBool
    let fresh ← if update then do pure (some (← r.lanes 0 s)) else pure none
    match ← kindAt node with
    | some (.dozer f held) =>
      let held := match fresh with
        | some v => v
        | none => if freeze then held else Vec4.zero
      putKind node (.dozer f held)
      return some (Shape.ofLanes s held)
    | _ => return some (zeroValue s.type)
  | .timer node settings =>
    match ← kindAt node with
    | some (.timer ts t) =>
      let t := t + dt * settings.speed
      putKind node (.timer ts t)
      let t ← if (← r.get 0 .bool).asBool then do
          putKind node (.timer ts 0)
          pure 0
        else pure t
      return some (.float (← liftFault (settings.show t)))
    | _ => return some (.float 0)
  | .random op => return some op.sample
  | .perlin =>
    let repeatSize := (← r.get 0 .int).asInt
    let octaves := (← r.get 1 .int).asInt
    let seed := (← r.get 2 .int).asInt
    let gain := (← r.get 3 .float).asFloat
    let p := (← r.get 4 .vector2).asVec2
    let f : Noise.Fractal :=
      { octaves := octaves, lacunarity := 2, gain := gain, repeatSize := repeatSize, seed := seed }
    return some (.float (Noise.fbm p.x p.y f))
  | .propertyRead address t =>
    match (← get).props.bind (·.get? address) with
    | some v => return some (if v.type = t then v else zeroValue t)
    | none => return some (zeroValue t)
  | .propertyWrite address t =>
    let v ← r.get 0 t
    match (← get).props with
    | some ps =>
      match ps.write? address v with
      | some ps' => modifyThe Run fun st => { st with props := some ps' }
      | none => modifyThe Run fun st => { st with events := st.events ++ [.writeRejected address] }
    | none => pure ()
    return none

end Plan

end NodeGraph
