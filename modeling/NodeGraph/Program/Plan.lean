import NodeGraph.Node.Basic

/-!
# Plans

A plan is what a compiled node computes each time it is evaluated: which inputs it reads, in what
order and as which types, what it returns, and which of its node's state it reads or writes.
Settings are fixed into the plan when it is compiled; state (the constant of a value node, a
timer's elapsed time, a spring's motion, ...) stays with the node and is read and written through
the node's id, so recompiling keeps it.

`Kind.plan` compiles a kind for the output type found by the type pass and the types of the nodes
its inputs read. It gives no plan when the kind cannot run with those types.
-/

namespace NodeGraph

/-- How the two operands of a component-wise binary operation are read. -/
inductive Operands where
  /-- both have the output's shape -/
  | both
  /-- the first has the output's shape; the second is a scalar of type `b` -/
  | scalarRight (b : ValueType)
  /-- the second has the output's shape; the first is a scalar of type `a` -/
  | scalarLeft (a : ValueType)
deriving Inhabited

/-- What a compiled node computes. -/
inductive Plan where
  /-- the constant of a value or default node, of type `t` -/
  | constant (node : NodeId) (t : ValueType)
  /-- stores the first input, of type `t`, as the constant of an output value node -/
  | store (node : NodeId) (t : ValueType)
  | curve (node : NodeId)
  | ramp (node : NodeId)
  /-- an integer math operation; `binary` reads a second operand -/
  | mathInt (op : MathOp) (binary : Bool)
  /-- a float math operation on operands of types `a` and `b` (integers widened) -/
  | mathFloat (op : MathOp) (a b : ValueType)
  /-- a one-operand math operation on each lane -/
  | mathUnary (op : MathOp) (s : Shape)
  /-- a two-operand math operation on each lane -/
  | mathLanes (op : MathOp) (s : Shape) (operands : Operands)
  | convert (factor : Float32) (s : Shape)
  | lerpInt
  | lerpLanes (s : Shape)
  | condition (op : ConditionOp) (invert : Bool)
  /-- picks the second or third input of type `t` by the first -/
  | branch (t : ValueType)
  | boolOp (op : BoolOp) (node : NodeId)
  | modify (s : Shape)
  | construct (s : Shape)
  | hsv (op : HsvOp)
  | vector (op : VectorOp) (s : Shape)
  /-- rotates input `v` of type `t` by the quaternion at input `q` -/
  | multiply (q v : Nat) (t : ValueType)
  | quaternion (op : QuaternionOp)
  /-- picks components of the first input, of type `source` -/
  | swizzle (source : ValueType) (s : Swizzle)
  | spring (node : NodeId) (s : Shape) (hardness factor : Float32)
  | delta (node : NodeId) (s : Shape)
  | dozer (node : NodeId) (s : Shape) (freeze : Bool)
  | timer (node : NodeId) (settings : TimerSettings)
  | random (op : RandomOp)
  | perlin
  | propertyRead (address : String) (t : ValueType)
  | propertyWrite (address : String) (t : ValueType)
deriving Inhabited

namespace Plan

/-- The type a plan produces; `none` for plans that produce nothing. -/
def output : Plan → ValueType
  | .constant _ t => t
  | .store .. => .none
  | .curve _ => .float
  | .ramp _ => .color
  | .mathInt .. => .int
  | .mathFloat .. => .float
  | .mathUnary _ s | .mathLanes _ s _ | .convert _ s | .lerpLanes s | .modify s
  | .construct s | .spring _ s .. | .delta _ s | .dozer _ s _ => s.type
  | .lerpInt => .int
  | .condition .. | .boolOp .. => .bool
  | .branch t => t
  | .hsv op => if op = .rgbToHsv then .vector3 else .color
  | .vector op s =>
    match op with
    | .dot | .length | .distance => .float
    | .cross | .projectOnPlane => .vector3
    | _ => s.type
  | .multiply _ _ t => t
  | .quaternion op => if op = .toEuler then .vector3 else .vector4
  | .swizzle _ s => s.shape.type
  | .timer .. | .perlin => .float
  | .random op => op.type
  | .propertyRead _ t => t
  | .propertyWrite .. => .none

/-- Whether a plan produces nothing. -/
def isVoid (p : Plan) : Bool := p.output == .none

end Plan

/-- The lane shape of a type, for floats, vectors and colours. -/
abbrev lanesOf? (t : ValueType) : Option Shape := Shape.ofType? t

/-- The lane shape of a type, for floats and vectors but not colours. -/
def vectorsOf? (t : ValueType) : Option Shape :=
  if t = .color then none else Shape.ofType? t

/-- The types a property tap can carry. -/
def propertyType? (t : ValueType) : Option ValueType :=
  match t with
  | .float | .int | .bool | .vector2 | .vector3 | .vector4 | .color | .texture | .mesh => some t
  | _ => none

namespace Kind

/-- The plan of a two-operand math node with output `out` and operand types `a`, `b`. -/
def mathBinary (op : MathOp) (out a b : ValueType) : Option Plan :=
  match out with
  | .int => some (.mathInt op true)
  | .float => some (.mathFloat op a b)
  | _ =>
    (lanesOf? out).map fun s =>
      if a = b then .mathLanes op s .both
      else if a = out then .mathLanes op s (.scalarRight b)
      else .mathLanes op s (.scalarLeft a)

/-- The plan of a quaternion product for its operand types: the quaternion is the first operand
unless only the second is a Vector4. -/
def multiplyPlan (a b : ValueType) : Option Plan :=
  let (q, v, t) := if a = .vector4 then (0, 1, b) else (1, 0, a)
  match t with
  | .vector4 | .vector3 | .vector2 => some (.multiply q v t)
  | _ => none

/-- Compiles a node of this kind with id `node`, output type `out`, input types `ins`, and whether
the graph has host properties. -/
def plan (k : Kind) (node : NodeId) (out : ValueType) (ins : List ValueType) (hasProps : Bool) :
    Option Plan :=
  let input := typeAt ins
  match k with
  | .value _ _ io c => some (if io = .output then .store node c.type else .constant node c.type)
  | .curve .. => some (.curve node)
  | .ramp .. => some (.ramp node)
  | .fallback c => some (.constant node c.type)
  | .math op =>
    if op.arity = 2 then mathBinary op out (input 0) (input 1)
    else if out = .int then some (.mathInt op false)
    else (lanesOf? out).map (.mathUnary op)
  | .convert op => (lanesOf? out).map (.convert op.factor)
  | .lerp => if out = .int then some .lerpInt else (lanesOf? out).map .lerpLanes
  | .vectorMath op =>
    match op with
    | .cross | .projectOnPlane => some (.vector op .vector3)
    | _ => (lanesOf? (input 0)).map (.vector op)
  | .quaternion op =>
    if op = .multiply then multiplyPlan (input 0) (input 1) else some (.quaternion op)
  | .vecModify => if out = .float then none else (lanesOf? out).map .modify
  | .vecConstructor shape => some (.construct shape.shape)
  | .swizzle components =>
    let source := input 0
    let s := Swizzle.parse components source.components
    if source = .int ∨ (lanesOf? source).isSome then some (.swizzle source s) else none
  | .colorHsv op => some (.hsv op)
  | .condition op inv => some (.condition op inv)
  | .branch => if out = .int ∨ (lanesOf? out).isSome then some (.branch out) else none
  | .boolOperator op _ => some (.boolOp op node)
  | .spring hardness damping _ =>
    (vectorsOf? out).map fun s => .spring node s hardness (springFactor damping)
  | .delta _ => (vectorsOf? out).map (.delta node)
  | .dozer freeze _ => (lanesOf? out).map fun s => .dozer node s freeze
  | .timer settings _ => some (.timer node settings)
  | .random op => some (.random op)
  | .perlin => some .perlin
  | .propertyInput address =>
    if hasProps then (propertyType? out).map (.propertyRead address) else none
  | .propertyOutput address =>
    if hasProps then (propertyType? (input 0)).map (.propertyWrite address) else none

end Kind

end NodeGraph
