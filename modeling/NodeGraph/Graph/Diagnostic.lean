import NodeGraph.Graph.Describe

/-!
# Diagnostic text

A one-line text of values, curves, ramps, links, nodes and compiled stages, for logs and
debugging. Every part is written as a record `Name { field: value, ... }`, a tuple `Name(a, b)`,
a list `[a, b]`, a quoted string, or a float in its general layout (`1.0`, `0.5`, `1e-7`).
A node's kind is shown with its settings and the state it keeps; a compiled stage is shown with
the stages it reads, nested, and what it kept from its last evaluation.
-/

namespace NodeGraph

namespace Diagnostic

/-- A float in the general layout. -/
def float (x : Float32) : String := Decimal.general32 x

/-- A list of parts between brackets. -/
def list (xs : List String) : String := "[" ++ ", ".intercalate xs ++ "]"

/-- A record with named fields. -/
def record (name : String) (fs : List (String × String)) : String :=
  if fs.isEmpty then name
  else name ++ " \x7b " ++ ", ".intercalate (fs.map fun (k, v) => k ++ ": " ++ v) ++ " \x7d"

/-- A tuple with a name. -/
def tuple (name : String) (xs : List String) : String := name ++ "(" ++ ", ".intercalate xs ++ ")"

/-- A boolean. -/
def bool (b : Bool) : String := if b then "true" else "false"

/-- A string, quoted with escapes. -/
def string (s : String) : String := quoted s

/-- A node id. -/
def nodeId (id : NodeId) : String := tuple "NodeId" [toString id]

/-- Four lanes as a list. -/
def lanes (v : Lanes) : String := list (v.toList.map float)

/-- A colour. -/
def color (c : Color) : String :=
  record "Color" [("r", float c.r), ("g", float c.g), ("b", float c.b), ("a", float c.a)]

/-- The bare contents of a constant: a number, a boolean, a vector tuple or a colour record. -/
def constant : Constant → String
  | c => match c.toValue with
    | .float v => float v
    | .int v => toString v.toInt
    | .bool v => bool v
    | .vector2 v => tuple "Vec2" [float v.x, float v.y]
    | .vector3 v => tuple "Vec3" [float v.x, float v.y, float v.z]
    | .vector4 v => tuple "Vec4" [float v.x, float v.y, float v.z, float v.w]
    | .color v => color v
    | .texture h => tuple "TextureHandle" [toString h.toNat]
    | .mesh h => tuple "MeshHandle" [toString h.toNat]

/-- A value with its type. -/
def value (v : Value) : String :=
  let inner := match Constant.ofValue? v with
    | some c => constant c
    | none => match v with
      | .texture h => tuple "TextureHandle" [toString h.toNat]
      | .mesh h => tuple "MeshHandle" [toString h.toNat]
      | _ => ""
  tuple v.type.name [inner]

/-- A curve with its wrap modes and keys. -/
def curve (c : Curve) : String :=
  record "AnimationCurve" [("pre_wrap", c.pre.label), ("post_wrap", c.post.label),
    ("keys", list (c.keys.map fun k => record "CurveKey" [("time", float k.time),
      ("value", float k.value), ("in_tangent", float k.inTangent),
      ("out_tangent", float k.outTangent), ("tangent_mode", toString k.tangentMode.toInt)]))]

/-- A ramp with its mode and keys. -/
def ramp (r : Ramp) : String :=
  record "ColorRamp" [("mode", r.mode.label),
    ("color_keys", list (r.colorKeys.map fun k =>
      record "ColorKey" [("time", float k.time), ("color", lanes k.color)])),
    ("alpha_keys", list (r.alphaKeys.map fun k =>
      record "AlphaKey" [("time", float k.time), ("alpha", float k.alpha)]))]

/-- A slot value with its type. -/
def slotValue : SlotValue → String
  | .constant c => tuple c.type.name [constant c]
  | .curve c => tuple "Curve" [curve c]
  | .ramp r => tuple "Ramp" [ramp r]

/-- A link. -/
def link (l : Link) : String :=
  record "Link" [("target", nodeId l.target), ("value_type", l.valueType.name),
    ("name", string l.name), ("required", bool l.required), ("no_defaults", bool l.noDefaults),
    ("last_default", nodeId l.lastDefault)]

/-- A kind with its settings and state. -/
def kind : Kind → String
  | .value n e io c => record "ValueNode" [("value_name", string n), ("use_as_external", bool e),
      ("io_mode", io.label), ("value", constant c)]
  | .curve n e c => record "CurveNode" [("value_name", string n), ("use_as_external", bool e),
      ("curve", curve c)]
  | .ramp n e r => record "RampNode" [("value_name", string n), ("use_as_external", bool e),
      ("ramp", ramp r)]
  | .fallback c => record "DefaultNode" [("value", constant c)]
  | .math op => record "MathNode" [("op", op.label)]
  | .convert op => record "ConvertNode" [("op", op.label)]
  | .lerp => "LerpNode"
  | .vectorMath op => record "VectorMathNode" [("op", op.label)]
  | .quaternion op => record "QuaternionMathNode" [("op", op.label)]
  | .vecModify => "VecModifyNode"
  | .vecConstructor s => record "VecConstructorNode" [("vector_type", s.label)]
  | .swizzle cs => record "SwizzleNode" [("components", string cs)]
  | .colorHsv op => record "ColorHsvNode" [("op", op.label)]
  | .condition op inv => record "ConditionNode" [("op", op.label), ("invert", bool inv)]
  | .branch => "IfNode"
  | .boolOperator op last => record "BoolOperatorNode" [("op", op.label), ("last", bool last)]
  | .spring h d m => record "SpringNode" [("hardness", float h), ("damping", float d),
      ("motion", record "Motion" [("velocity", lanes m.velocity), ("current", lanes m.current)])]
  | .delta last => record "DeltaNode" [("last", lanes last)]
  | .dozer freeze held => record "DozerNode" [("freeze", bool freeze), ("held", lanes held)]
  | .timer s t => record "TimerNode" [("limit_mode", s.mode.label), ("time_speed", float s.speed),
      ("limit", float s.limit), ("inverse", bool s.inverse), ("to01", bool s.toUnit),
      ("time", float t)]
  | .random op => record "RandomNode" [("op", op.label)]
  | .perlin => "PerlinNode"
  | .propertyInput a => record "PropertyInputNode" [("address", string a)]
  | .propertyOutput a => record "PropertyOutputNode" [("address", string a)]

/-- A node with its links, cached type and kind. -/
def node (n : Node) : String :=
  record "Node" [("id", nodeId n.id), ("position", list [float n.position.x, float n.position.y]),
    ("inputs", list (n.inputs.map link)), ("cached_output_type", n.type.name),
    ("kind", kind n.kind)]

/-- What a stage kept. -/
def memo : Option Memo → String
  | none => "None"
  | some m => tuple "Some" [record "Memo" [("tick", toString m.tick),
      ("value", match m.value with
        | some v => tuple "Some" [value v]
        | none => "None")]]

/-- A compiled stage with the stages it reads, nested; `fuel` bounds the depth. -/
def stage (p : Program) : Nat → Nat → String
  | 0, _ => ""
  | fuel + 1, i =>
    match p.stages[i]? with
    | none => ""
    | some s =>
      let input (j : Option Nat) : String := match j with
        | some j => tuple "Some" [record "RefCell" [("value", stage p fuel j)]]
        | none => "None"
      record "Processor" [("node", nodeId s.node), ("inputs", list (s.inputs.map input)),
        ("evaluator", tuple "Evaluator" [s.plan.output.name]), ("consumers", toString s.consumers),
        ("memoize", bool s.memoize), ("memo", memo ((p.memos[i]?).join))]

end Diagnostic

end NodeGraph
