import NodeGraph.Vector.Rotation

/-!
# Component-wise vector operations

Operations of the vector-math, constructor and convert nodes on the lane view of floats, vectors
and colours. A lane operation looks at as many lanes as the value's shape has; dot products add
the lane products in order, starting from a negative zero, so an all-negative-zero sum stays
negative zero.
-/

namespace NodeGraph

/-- The operation of a vector-math node. -/
inductive VectorOp where
  | dot | normalize | length | distance | cross | project | projectOnPlane | reflect
deriving DecidableEq, Repr, Inhabited

namespace VectorOp

/-- All operations in their fixed order. -/
def all : List VectorOp := [dot, normalize, length, distance, cross, project, projectOnPlane, reflect]

/-- The operation at a position of the fixed order. -/
def ofIndex? (i : Nat) : Option VectorOp := all[i]?

/-- The position of an operation in the fixed order. -/
def index (op : VectorOp) : Nat := all.idxOf op

/-- The operation's name. -/
def label : VectorOp → String
  | dot => "Dot" | normalize => "Normalize" | length => "Length" | distance => "Distance"
  | cross => "Cross" | project => "Project" | projectOnPlane => "ProjectOnPlane"
  | reflect => "Reflect"

/-- The number of inputs. -/
def arity : VectorOp → Nat
  | normalize | length => 1
  | _ => 2

end VectorOp

/-- The vector a constructor node builds. -/
inductive VectorKind where
  | vec2 | vec3 | vec4 | color
deriving DecidableEq, Repr, Inhabited

namespace VectorKind

/-- All kinds in their fixed order. -/
def all : List VectorKind := [vec2, vec3, vec4, color]

/-- The kind at a position of the fixed order. -/
def ofIndex? (i : Nat) : Option VectorKind := all[i]?

/-- The position of a kind in the fixed order. -/
def index (k : VectorKind) : Nat := all.idxOf k

/-- The kind's name. -/
def label : VectorKind → String
  | vec2 => "Vec2" | vec3 => "Vec3" | vec4 => "Vec4" | color => "Color"

/-- The value type built. -/
def type : VectorKind → ValueType
  | vec2 => .vector2 | vec3 => .vector3 | vec4 => .vector4 | color => .color

/-- The shape built. -/
def shape : VectorKind → Shape
  | vec2 => .vector2 | vec3 => .vector3 | vec4 => .vector4 | color => .color

end VectorKind

/-- The unit conversion of a convert node. -/
inductive ConvertOp where
  | deg2Rad | rad2Deg | one2Rad | rad2One | one2Deg | deg2One
deriving DecidableEq, Repr, Inhabited

namespace ConvertOp

/-- All conversions in their fixed order. -/
def all : List ConvertOp := [deg2Rad, rad2Deg, one2Rad, rad2One, one2Deg, deg2One]

/-- The conversion at a position of the fixed order. -/
def ofIndex? (i : Nat) : Option ConvertOp := all[i]?

/-- The position of a conversion in the fixed order. -/
def index (op : ConvertOp) : Nat := all.idxOf op

/-- The conversion's name. -/
def label : ConvertOp → String
  | deg2Rad => "Deg2Rad" | rad2Deg => "Rad2Deg" | one2Rad => "One2Rad" | rad2One => "Rad2One"
  | one2Deg => "One2Deg" | deg2One => "Deg2One"

/-- The factor a value is multiplied by (turns, degrees and radians). -/
def factor : ConvertOp → Float32
  | deg2Rad => Number.tau / 360
  | rad2Deg => 360 / Number.tau
  | one2Rad => Number.tau
  | rad2One => 1 / Number.tau
  | one2Deg => 360
  | deg2One => 1 / 360

end ConvertOp

/-- Names of the components of a vector type, for per-component inputs. -/
def componentNames : ValueType → List String
  | .vector2 => ["x", "y"]
  | .vector3 => ["x", "y", "z"]
  | .vector4 => ["x", "y", "z", "w"]
  | .color => ["r", "g", "b", "a"]
  | _ => []

namespace LaneOps

/-- The first `n` lanes. -/
def take (n : Nat) (v : Lanes) : List Float32 := v.toList.take n

/-- The dot product over the first `n` lanes, summed in order from a negative zero. -/
def dot (n : Nat) (a b : Lanes) : Float32 :=
  (List.zipWith (· * ·) (take n a) (take n b)).foldl (· + ·) (-0)

/-- The dot product of a vector-math node: four-component vectors add their products in pairs,
`(x + z) + (y + w)`; every other shape adds them in order. -/
def shapeDot (s : Shape) (a b : Lanes) : Float32 :=
  if s = .vector4 then Vec4.dot a b else dot s.count a b

/-- The length over the first `n` lanes. -/
def length (n : Nat) (a : Lanes) : Float32 := (dot n a a).sqrt

/-- The lanes divided by their length, or zero when the length is at most `1e-5`. -/
def normalizeOrZero (n : Nat) (a : Lanes) : Lanes :=
  let len := length n a
  if len > 0.00001 then a.map (· / len) else Vec4.zero

/-- The projection of `v` onto `n`; zero when `n` is shorter than the float epsilon squared. -/
def project (k : Nat) (v n : Lanes) : Lanes :=
  let sq := dot k n n
  if sq < Number.epsilon then Vec4.zero
  else
    let s := dot k v n / sq
    n.map (· * s)

/-- The reflection of `d` off the plane with normal `n`. -/
def reflect (k : Nat) (d n : Lanes) : Lanes :=
  let factor := -2 * dot k d n
  Vec4.zipWith (fun a b => a + factor * b) d n

end LaneOps

end NodeGraph
