import NodeGraph.Node.Constant
import NodeGraph.Op.Math
import NodeGraph.Op.Logic
import NodeGraph.Op.Vector
import NodeGraph.Op.Quaternion
import NodeGraph.Op.Color
import NodeGraph.Op.Time
import NodeGraph.Op.Random

/-!
# Node kinds

What a node does is its kind: a constant, a curve or ramp lookup, an operation, a node with state
carried from tick to tick, a noise source or a tap into host properties. A kind holds the settings
the graph text records and, for the kinds that keep state between ticks, that state.

Each kind has a stable id (used in the graph text), a display name, a category and an optional
path in the creation menu. The registry lists every kind, in a fixed order, as it is when newly
created.
-/

namespace NodeGraph

/-- How a value node is wired to the host: not at all, as a host input, or as a host output. -/
inductive IoMode where
  | none
  | input
  | output
deriving DecidableEq, Repr, Inhabited

namespace IoMode

/-- The number a mode is stored as. -/
def index : IoMode → Nat
  | none => 0
  | input => 1
  | output => 2

/-- The mode stored as a number. -/
def ofIndex? : Int → Option IoMode
  | 0 => some none
  | 1 => some input
  | 2 => some output
  | _ => Option.none

/-- The name of a mode. -/
def label : IoMode → String
  | none => "None"
  | input => "Input"
  | output => "Output"

/-- IO modes in field text. -/
def enumeration : Enumeration IoMode := ⟨"io mode", ofIndex?⟩

theorem ofIndex?_index (m : IoMode) : ofIndex? m.index = some m := by cases m <;> rfl

end IoMode

/-- The group a kind is listed under. -/
inductive Category where
  | value | default | math | vector | logic | time | noise | lookup | property
deriving DecidableEq, Repr, Inhabited

namespace Category

/-- All categories in their fixed order. -/
def all : List Category := [value, default, math, vector, logic, time, noise, lookup, property]

/-- The name of a category. -/
def label : Category → String
  | value => "Value" | default => "Default" | math => "Math" | vector => "Vector"
  | logic => "Logic" | time => "Time" | noise => "Noise" | lookup => "Lookup"
  | property => "Property"

end Category

/-- The kind of a node, with its settings and the state it keeps between ticks. -/
inductive Kind where
  /-- a constant, optionally listed as an external slot or wired to the host -/
  | value (name : String) (external : Bool) (io : IoMode) (constant : Constant)
  /-- a float-to-float curve lookup -/
  | curve (name : String) (external : Bool) (curve : Curve)
  /-- a float-to-colour ramp lookup -/
  | ramp (name : String) (external : Bool) (ramp : Ramp)
  /-- a hidden constant filling an unconnected input -/
  | fallback (constant : Constant)
  | math (op : MathOp)
  | convert (op : ConvertOp)
  | lerp
  | vectorMath (op : VectorOp)
  | quaternion (op : QuaternionOp)
  | vecModify
  | vecConstructor (shape : VectorKind)
  | swizzle (components : String)
  | colorHsv (op : HsvOp)
  | condition (op : ConditionOp) (invert : Bool)
  | branch
  /-- a boolean operation; `last` is the previous input of a trigger -/
  | boolOperator (op : BoolOp) (last : Bool)
  | spring (hardness damping : Float32) (motion : Motion)
  /-- the change of its input since the last tick; `last` holds the previous input -/
  | delta (last : Lanes)
  /-- a value held while its update flag is set -/
  | dozer (freeze : Bool) (held : Lanes)
  | timer (settings : TimerSettings) (time : Float32)
  | random (op : RandomOp)
  | perlin
  | propertyInput (address : String)
  | propertyOutput (address : String)
deriving Inhabited

namespace Kind

/-- The id of the kind of a value node holding a constant of type `t`. -/
def constantId (t : ValueType) : String :=
  match t with
  | .float => "float" | .int => "int" | .bool => "bool" | .vector2 => "vector2"
  | .vector3 => "vector3" | .vector4 => "vector4" | .color => "color"
  | _ => ""

/-- The stable id of a kind. -/
def id : Kind → String
  | .value _ _ _ c => constantId c.type
  | .curve .. => "curve"
  | .ramp .. => "ramp"
  | .fallback c => "default_" ++ constantId c.type
  | .math _ => "math"
  | .convert _ => "convert"
  | .lerp => "lerp"
  | .vectorMath _ => "vector_math"
  | .quaternion _ => "quaternion_math"
  | .vecModify => "vec_modify"
  | .vecConstructor _ => "vec_constructor"
  | .swizzle _ => "swizzle"
  | .colorHsv _ => "color_hsv"
  | .condition .. => "condition"
  | .branch => "if"
  | .boolOperator .. => "bool_operator"
  | .spring .. => "spring"
  | .delta _ => "delta"
  | .dozer .. => "dozer"
  | .timer .. => "timer"
  | .random _ => "random"
  | .perlin => "perlin"
  | .propertyInput _ => "property_input"
  | .propertyOutput _ => "property_output"

/-- The display name: a host-wired value node shows its slot name when it has one. -/
def name : Kind → String
  | .value n _ io c => if io ≠ .none ∧ n ≠ "" then n else c.type.name
  | .curve .. => "Curve"
  | .ramp .. => "Ramp"
  | .fallback c => c.type.name
  | .math _ => "Math"
  | .convert _ => "Convert"
  | .lerp => "Lerp"
  | .vectorMath _ => "Vector Math"
  | .quaternion _ => "Quaternion Math"
  | .vecModify => "Vec Modify"
  | .vecConstructor _ => "Constructor"
  | .swizzle _ => "Swizzle"
  | .colorHsv _ => "RGB/HSV"
  | .condition .. => "Condition"
  | .branch => "If"
  | .boolOperator .. => "Bool Operator"
  | .spring .. => "Spring"
  | .delta _ => "Delta"
  | .dozer .. => "Dozer"
  | .timer .. => "Timer"
  | .random _ => "Random"
  | .perlin => "Perlin"
  | .propertyInput _ => "Property Input"
  | .propertyOutput _ => "Property Output"

/-- The output type a kind declares before any type pass. -/
def declaredType : Kind → ValueType
  | .value _ _ io c => if io = .output then .none else c.type
  | .curve .. => .float
  | .ramp .. => .color
  | .fallback c => c.type
  | .math _ | .convert _ | .lerp | .branch | .spring .. | .delta _ | .dozer .. => .anyScalar
  | .propertyInput _ => .anyScalar
  | .vectorMath op =>
    match op with
    | .dot | .length | .distance => .float
    | .cross | .projectOnPlane => .vector3
    | _ => .anyVector
  | .quaternion op =>
    match op with
    | .multiply => .anyVector
    | .toEuler => .vector3
    | _ => .vector4
  | .vecModify => .anyVector
  | .vecConstructor k => k.type
  | .swizzle _ => .float
  | .colorHsv op => if op = .rgbToHsv then .vector3 else .color
  | .condition .. | .boolOperator .. => .bool
  | .timer .. | .perlin => .float
  | .random op => op.type
  | .propertyOutput _ => .none

/-- Whether the editor may remove or copy a node of this kind: not a hidden default, and not a
value node wired to the host. -/
def controllable : Kind → Bool
  | .value _ _ io _ => io = .none
  | .fallback _ => false
  | _ => true

/-- Whether the kind is a hidden default. -/
def isDefault : Kind → Bool
  | .fallback _ => true
  | _ => false

/-- The category of a kind. -/
def category : Kind → Category
  | .value .. => .value
  | .curve .. | .ramp .. => .lookup
  | .fallback _ => .default
  | .math _ | .convert _ | .lerp => .math
  | .vectorMath _ | .quaternion _ | .vecModify | .vecConstructor _ | .swizzle _ | .colorHsv _ =>
    .vector
  | .condition .. | .branch | .boolOperator .. => .logic
  | .spring .. | .delta _ | .dozer .. | .timer .. => .time
  | .random _ | .perlin => .noise
  | .propertyInput _ | .propertyOutput _ => .property

/-- The path of a kind in the creation menu; hidden defaults have none. -/
def menu : Kind → Option String
  | .value _ _ _ c => some ("Values/" ++ c.type.name)
  | .curve .. => some "Values/Curve"
  | .ramp .. => some "Values/Ramp"
  | .fallback _ => none
  | .math _ => some "Operations/Math"
  | .convert _ => some "Operations/Convert"
  | .lerp => some "Operations/Lerp"
  | .vectorMath _ => some "Vector/Vector Math"
  | .quaternion _ => some "Vector/Quaternion Math"
  | .vecModify => some "Vector/Modify"
  | .vecConstructor _ => some "Vector/Constructor"
  | .swizzle _ => some "Vector/Swizzle"
  | .colorHsv _ => some "Vector/RGB HSV"
  | .condition .. => some "Logic/Condition"
  | .branch => some "Logic/If"
  | .boolOperator .. => some "Logic/Bool Operator"
  | .spring .. => some "Time/Spring"
  | .delta _ => some "Time/Delta"
  | .dozer .. => some "Time/Dozer"
  | .timer .. => some "Time/Timer"
  | .random _ => some "Noise/Random"
  | .perlin => some "Noise/Perlin"
  | .propertyInput _ => some "Property/Input"
  | .propertyOutput _ => some "Property/Output"

/-- The constant types of value and default nodes, in registry order. -/
def constantTypes : List ValueType := [.float, .int, .bool, .vector2, .vector3, .vector4, .color]

/-- A new value node of a type. -/
def freshValue (t : ValueType) : Kind := .value "" false .none ((Constant.zeroOf? t).getD (.float 0))

/-- A new default node of a type. -/
def freshFallback (t : ValueType) : Kind := .fallback ((Constant.zeroOf? t).getD (.float 0))

/-- A new spring: hardness 0.1, damping 0.5, at rest. -/
def freshSpring : Kind := .spring 0.1 0.5 {}

/-- Every kind, newly created, in registry order. -/
def registry : List Kind :=
  constantTypes.map freshValue ++
  [.curve "" false {}, .ramp "" false Ramp.white] ++
  constantTypes.map freshFallback ++
  [.math .multiply, .convert .deg2Rad, .lerp,
   .vectorMath .dot, .quaternion .multiply, .vecModify, .vecConstructor .vec2, .swizzle "",
   .colorHsv .rgbToHsv,
   .condition .aMoreThanB false, .branch, .boolOperator .invertA false,
   freshSpring, .delta Vec4.zero, .dozer false Vec4.zero, .timer {} 0,
   .random .insideUnitCircle, .perlin,
   .propertyInput "", .propertyOutput ""]

/-- A new node kind by id. -/
def create? (kindId : String) : Option Kind := registry.find? (·.id == kindId)

/-- The kind ids of a category, in registry order. -/
def idsIn (c : Category) : List String := (registry.filter (·.category == c)).map (·.id)

/-- The kind id of the default node for an input declared with type `t`: scalars read as floats
and vectors of unknown size as three-component vectors. -/
def fallbackId? (t : ValueType) : Option String :=
  match t with
  | .float | .anyScalar => some "default_float"
  | .int => some "default_int"
  | .bool => some "default_bool"
  | .vector2 => some "default_vector2"
  | .vector3 | .anyVector => some "default_vector3"
  | .vector4 => some "default_vector4"
  | .color => some "default_color"
  | _ => none

/-- The kind id of the value node that wires a host input or output of type `t`. -/
def ioId? (t : ValueType) : Option String :=
  if t ∈ constantTypes then some (constantId t) else none

end Kind

end NodeGraph
