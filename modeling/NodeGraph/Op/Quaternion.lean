import NodeGraph.Vector.Rotation
import NodeGraph.Curve.Interpolation

/-!
# Quaternion operations

The operations of the quaternion node, on rotations stored as Vector4 values `x, y, z, w`.
Euler angles are in degrees, applied as roll about Z, then pitch about X, then yaw about Y;
decomposed angles are wrapped into `[0, 360)`. Degenerate inputs (a zero direction or axis) give
the identity rotation.
-/

namespace NodeGraph

/-- The operation of a quaternion node. -/
inductive QuaternionOp where
  | multiply | fromEuler | toEuler | fromToRotation | axisAngle | inverse | lerpUnclamped
  | slerpUnclamped | lookRotation
deriving DecidableEq, Repr, Inhabited

namespace QuaternionOp

/-- All operations in their fixed order. -/
def all : List QuaternionOp :=
  [multiply, fromEuler, toEuler, fromToRotation, axisAngle, inverse, lerpUnclamped,
    slerpUnclamped, lookRotation]

/-- The operation at a position of the fixed order. -/
def ofIndex? (i : Nat) : Option QuaternionOp := all[i]?

/-- The position of an operation in the fixed order. -/
def index (op : QuaternionOp) : Nat := all.idxOf op

/-- The operation's name. -/
def label : QuaternionOp → String
  | multiply => "Multiply" | fromEuler => "FromEuler" | toEuler => "ToEuler"
  | fromToRotation => "FromToRotation" | axisAngle => "AxisAngle" | inverse => "Inverse"
  | lerpUnclamped => "LerpUnclamped" | slerpUnclamped => "SlerpUnclamped"
  | lookRotation => "LookRotation"

end QuaternionOp

namespace Rotation

open Number

/-- The rotation of Euler angles in degrees (`x` pitch, `y` yaw, `z` roll). -/
def ofEulerDegrees (d : Vec3) : Vec4 :=
  let r : Vec3 := ⟨d.x * pi / 180, d.y * pi / 180, d.z * pi / 180⟩
  Vec4.ofEuler r.y r.x r.z

/-- The Euler angles of a rotation in degrees, each wrapped into `[0, 360)`. -/
def toEulerDegrees (q : Vec4) : Vec3 :=
  let (y, x, z) := Vec4.toEuler q
  let wrap (a : Float32) : Float32 := remEuclid (toDegrees a) 360
  ⟨wrap x, wrap y, wrap z⟩

/-- The rotation whose Z axis points along `forward` and whose Y axis leans towards `up`. -/
def look (forward up : Vec3) : Vec4 :=
  let f := forward.normalizeOrZero
  if f.isZero then Vec4.identity
  else
    let right := (Vec3.cross up f).normalizeOrZero
    if right.isZero then Vec4.ofArc Vec3.unitZ f
    else Vec4.ofColumns right (Vec3.cross f right) f

/-- The shortest rotation from one direction to another, identity if either is zero. -/
def fromTo (src dst : Vec3) : Vec4 :=
  let s := src.normalizeOrZero
  let d := dst.normalizeOrZero
  if s.isZero || d.isZero then Vec4.identity else Vec4.ofArc s d

/-- The rotation of an angle in degrees about an axis, identity for a zero axis. -/
def axisAngle (degrees : Float32) (axis : Vec3) : Vec4 :=
  let a := axis.normalizeOrZero
  if a.isZero then Vec4.identity else Vec4.ofAxisAngle a (toRadians degrees)

/-- The normalised linear blend of two rotations along the shorter way. -/
def lerp (a b : Vec4) (t : Float32) : Vec4 :=
  let b := if Vec4.dot a b < 0 then b.map (- ·) else b
  (Vec4.lerp a b t).normalizeOrZero

end Rotation

end NodeGraph
