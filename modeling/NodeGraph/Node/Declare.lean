import NodeGraph.Node.Kind
import NodeGraph.Value.Typing
import NodeGraph.Op.Swizzle
import NodeGraph.Value.Basic

/-!
# Inputs and output types of each kind

`Kind.configure` declares a node's inputs for its current settings: the list is cut or padded to
the kind's count and each input takes its type, name and settings, keeping its target. Declaring
twice changes nothing.

`Kind.resolve` gives the output type a node has for the types of the nodes its inputs read from;
`error` marks a node that cannot run with those inputs. Two kinds also adjust their inputs while
resolving: a vector modifier grows one float input per component of its vector, and a property
output declares the type of the property it writes.
-/

namespace NodeGraph

/-- The type at a position of a type list, or `none` past its end. -/
def typeAt (ts : List ValueType) (i : Nat) : ValueType := ts.getD i .none

/-- Floats and vectors of two to four floats keep their type; all else is an error. -/
def floatOrVector (t : ValueType) : ValueType :=
  match t with
  | .float | .vector2 | .vector3 | .vector4 => t
  | _ => .error

namespace Kind

/-- The input layout of a quaternion operation. -/
def quaternionLayout : QuaternionOp → List (ValueType × String × LinkSettings)
  | .multiply => [(.anyVector, "A", .needed), (.anyVector, "B", .needed)]
  | .axisAngle => [(.float, "Angle", .needed), (.vector3, "Axis", .needed)]
  | .fromEuler => [(.vector3, "Euler", .needed)]
  | .toEuler => [(.vector4, "Quaternion", .needed)]
  | .fromToRotation => [(.vector3, "From", .needed), (.vector3, "To", .needed)]
  | .inverse => [(.vector4, "In", .needed)]
  | .lerpUnclamped | .slerpUnclamped =>
    [(.vector4, "a", .needed), (.vector4, "b", .needed), (.float, "t", .needed)]
  | .lookRotation => [(.vector3, "Forward", .needed), (.vector3, "Upward", .bare)]

/-- The input layout of a colour conversion. -/
def hsvLayout : HsvOp → List (ValueType × String × LinkSettings)
  | .rgbToHsv => [(.color, "RGB", .needed)]
  | .hsvToRgb => [(.vector3, "HSV", .needed)]
  | .hsvValuesToRgb => [(.float, "Hue", .needed), (.float, "Saturation", .needed),
      (.float, "Value", .needed)]

/-- The input names of a vector operation. -/
def vectorNames : VectorOp → String × String
  | .normalize | .length => ("In", "")
  | .project | .projectOnPlane | .reflect => ("Vector", "Normal")
  | _ => ("A", "B")

/-- The inputs of the noise node: repeat size, octaves, seed, roughness and the sample point,
which must be wired. -/
def perlinLayout : List (ValueType × String × LinkSettings) :=
  [(.int, "Repeat Size", .needed), (.int, "Octaves", .needed), (.int, "Seed", .needed),
   (.float, "Roughness", .needed), (.vector2, "In", .wired)]

/-- One or two inputs of a type: the first with `first`, the second (if present) with `second`. -/
def declarePair (inputs : List Link) (n : Nat) (t : ValueType) (first second : String)
    (s₁ s₂ : LinkSettings) : List Link :=
  (resizeInputs inputs n).mapIdx fun i l =>
    if i = 0 then l.declare t first s₁ else if i = 1 then l.declare t second s₂ else l

/-- Declares the inputs of a node of this kind. -/
def configure (k : Kind) (inputs : List Link) : List Link :=
  match k with
  | .value _ _ io c =>
    if io = .output then declareAll inputs [(c.type, "In", .wired)] else resizeInputs inputs 0
  | .curve .. | .ramp .. => declareAll inputs [(.float, "In", .wired)]
  | .fallback _ | .random _ | .propertyInput _ => inputs
  | .math op => declarePair inputs op.arity .anyScalar "A" "B" .needed .needed
  | .convert _ => declareAll inputs [(.anyScalar, "In", .needed)]
  | .lerp => declareAll inputs [(.anyScalar, "A", .needed), (.anyScalar, "B", .needed),
      (.float, "t", .needed)]
  | .vectorMath op =>
    let (a, b) := vectorNames op
    declarePair inputs op.arity .anyVector a b .needed .needed
  | .quaternion op => declareAll inputs (quaternionLayout op)
  | .vecModify =>
    let inputs := if inputs.isEmpty then resizeInputs inputs 1 else inputs
    inputs.mapIdx fun i l => if i = 0 then l.declare .anyVector "Vec" .bare else l
  | .vecConstructor shape =>
    declareAll inputs ((componentNames shape.type).map fun n => (.float, n, .optional))
  | .swizzle _ => declareAll inputs [(.anyScalar, "Vec", .bare)]
  | .colorHsv op => declareAll inputs (hsvLayout op)
  | .condition .. => declareAll inputs [(.float, "A", .needed), (.float, "B", .needed)]
  | .branch => declareAll inputs [(.bool, "If", .needed), (.anyScalar, "Then", .needed),
      (.anyScalar, "Else", .needed)]
  | .boolOperator op _ =>
    declareAll inputs [(.bool, "A", .needed), (.bool, "B", if op.usesB then .needed else .optional)]
  | .spring .. => declareAll inputs [(.anyScalar, "Acceleration", .optional)]
  | .delta _ => declareAll inputs [(.anyScalar, "Val", .optional)]
  | .dozer .. => declareAll inputs [(.anyScalar, "Val", .optional), (.bool, "Update", .optional)]
  | .timer .. => declareAll inputs [(.bool, "Reset", .optional)]
  | .perlin => declareAll inputs perlinLayout
  | .propertyOutput _ => declareAll inputs [(.none, "In", .wired)]

/-- The output type of a vector operation for its input types. -/
def vectorMathType (op : VectorOp) (ts : List ValueType) : ValueType :=
  let a := typeAt ts 0
  if op.arity = 1 then
    let t := Typing.vectorOnly a
    if t = .error then .error else if op = .length then .float else t
  else
    let same := Typing.same [a, typeAt ts 1]
    match op with
    | .dot | .distance => if Typing.vectorOnly same ≠ .error then .float else .error
    | .cross | .projectOnPlane => if same = .vector3 then same else .error
    | .project => if same = .vector3 ∨ same = .vector4 then same else .error
    | .reflect => if same = .vector2 ∨ same = .vector3 then same else .error
    | _ => .error

/-- The output type of a quaternion operation for its input types. -/
def quaternionType (op : QuaternionOp) (ts : List ValueType) : ValueType :=
  let t := typeAt ts
  let ok : Bool := match op with
    | .multiply => false
    | .axisAngle => t 0 = .float ∧ t 1 = .vector3
    | .fromEuler => t 0 = .vector3
    | .toEuler | .inverse => t 0 = .vector4
    | .fromToRotation => t 0 = .vector3 ∧ t 1 = .vector3
    | .lerpUnclamped | .slerpUnclamped => t 0 = .vector4 ∧ t 1 = .vector4 ∧ t 2 = .float
    | .lookRotation => t 0 = .vector3 ∧ (t 1 = .vector3 ∨ t 1 = .none)
  if op = .multiply then
    match t 0, t 1 with
    | .vector4, .vector2 => .vector2
    | .vector4, .vector3 => .vector3
    | .vector4, .vector4 => .vector4
    | .vector2, .vector4 => .vector2
    | .vector3, .vector4 => .vector3
    | _, _ => .error
  else if ok then (Kind.quaternion op).declaredType else .error

/-- The output type of a node of this kind whose inputs read nodes of types `ts`, with the inputs
as the kind adjusts them. -/
def resolve (k : Kind) (inputs : List Link) (ts : List ValueType) (props : Option Properties) :
    ValueType × List Link :=
  let t := typeAt ts
  match k with
  | .value _ _ io c =>
    if io ≠ .output then (c.type, inputs)
    else (if Typing.exactOrNone (t 0) c.type then .none else .error, inputs)
  | .curve .. => (if Typing.exactOrNone (t 0) .float then .float else .error, inputs)
  | .ramp .. => (if Typing.exactOrNone (t 0) .float then .color else .error, inputs)
  | .fallback c => (c.type, inputs)
  | .math op =>
    if op.arity = 2 then
      match Typing.floatOrInt (t 0) (t 1) with
      | .error => (Typing.vectorFloatOrInt (t 0) (t 1), inputs)
      | r => (r, inputs)
    else (Typing.valueOnly (t 0), inputs)
  | .convert _ => (if (t 0).isValueExceptInt then t 0 else .error, inputs)
  | .lerp =>
    let r := Typing.valueOnly (Typing.same [t 0, t 1])
    (if t 2 = .float then r else .error, inputs)
  | .vectorMath op => (vectorMathType op ts, inputs)
  | .quaternion op => (quaternionType op ts, inputs)
  | .vecModify =>
    let names := componentNames (t 0)
    let inputs := (resizeInputs inputs (1 + names.length)).mapIdx fun i l =>
      if i = 0 then l else l.declare .float (names.getD (i - 1) "") .bare
    let ok := (List.range inputs.length).all fun i => i = 0 ∨ Typing.exactOrNone (t i) .float
    (if ok then Typing.vectorOnly (t 0) else .error, inputs)
  | .vecConstructor shape =>
    (if ts.all (Typing.exactOrNone · .float) then shape.type else .error, inputs)
  | .swizzle components =>
    if !(t 0).isValue then (.error, inputs)
    else ((Swizzle.parse components (t 0).components).outputType, inputs)
  | .colorHsv op =>
    let ok : Bool := match op with
      | .rgbToHsv => t 0 == .color
      | .hsvToRgb => t 0 == .vector3
      | .hsvValuesToRgb => Typing.same ts == .float
    (if ok then k.declaredType else .error, inputs)
  | .condition .. => (if t 0 = .float ∧ t 1 = .float then .bool else .error, inputs)
  | .branch =>
    if t 0 ≠ .bool then (.error, inputs)
    else (Typing.valueOnly (Typing.same [t 1, t 2]), inputs)
  | .boolOperator .. =>
    (if t 0 = .bool ∧ Typing.exactOrNone (t 1) .bool then .bool else .error, inputs)
  | .spring .. | .delta _ => (floatOrVector (t 0), inputs)
  | .dozer .. =>
    if ts[1]? ≠ some .bool then (.error, inputs)
    else (if t 0 = .color then .color else floatOrVector (t 0), inputs)
  | .timer .. => (if ts.head? = some .bool then .float else .error, inputs)
  | .random op => (op.type, inputs)
  | .perlin =>
    (if ts = perlinLayout.map (·.1) then .float else .error, inputs)
  | .propertyInput address =>
    ((props.bind (·.typeAt? address)).getD .error, inputs)
  | .propertyOutput address =>
    match props.bind (·.typeAt? address) with
    | none => (.error, inputs.mapIdx fun i l => if i = 0 then { l with valueType := .error } else l)
    | some w =>
      (if ts.head? = some w then .none else .error,
        inputs.mapIdx fun i l => if i = 0 then { l with valueType := w } else l)

end Kind

end NodeGraph
