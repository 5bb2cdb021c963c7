import NodeGraph.Value.Basic

/-!
# Vector and rotation arithmetic

Three- and four-component vector operations and unit quaternions (stored `x, y, z, w`), with
every sum taken in a fixed grouping so results are reproducible to the last bit:

* three-component dot products are `(x + y) + z`;
* four-component dot products are `(x + z) + (y + w)`, the pairing of a two-step horizontal sum;
* the quaternion product adds its four terms per component as `(t₀ + t₁) + (t₂ + t₃)`.

Rotations are built from Euler angles (yaw about Y, then pitch about X, then roll about Z), from
rotation matrices, from axis and angle, and as the shortest arc between two directions; they
rotate vectors and decompose back into Euler angles through their matrix.
-/

namespace NodeGraph

namespace Vec3

/-- All components zero. -/
def zero : Vec3 := ⟨0, 0, 0⟩

/-- The unit Y axis. -/
def unitY : Vec3 := ⟨0, 1, 0⟩

/-- The unit Z axis. -/
def unitZ : Vec3 := ⟨0, 0, 1⟩

/-- Component-wise sum. -/
def add (a b : Vec3) : Vec3 := ⟨a.x + b.x, a.y + b.y, a.z + b.z⟩

/-- Component-wise difference. -/
def sub (a b : Vec3) : Vec3 := ⟨a.x - b.x, a.y - b.y, a.z - b.z⟩

/-- Every component times a scalar. -/
def scale (a : Vec3) (s : Float32) : Vec3 := ⟨a.x * s, a.y * s, a.z * s⟩

/-- The dot product, summed as `(x + y) + z`. -/
def dot (a b : Vec3) : Float32 := a.x * b.x + a.y * b.y + a.z * b.z

/-- The cross product. -/
def cross (a b : Vec3) : Vec3 :=
  ⟨a.y * b.z - b.y * a.z, a.z * b.x - b.z * a.x, a.x * b.y - b.x * a.y⟩

/-- Exact equality with the zero vector (a negative zero counts as zero). -/
def isZero (a : Vec3) : Bool := a.x == 0 && a.y == 0 && a.z == 0

/-- The vector scaled by the reciprocal of its length, or zero when that reciprocal is not a
positive finite number. -/
def normalizeOrZero (a : Vec3) : Vec3 :=
  let rcp := 1 / (dot a a).sqrt
  if rcp.isFinite && rcp > 0 then a.scale rcp else zero

/-- The sign of a float as `1` or `-1` (negative zero gives `-1`), NaN for NaN. -/
def signum (x : Float32) : Float32 :=
  if x.isNaN then x else if Binary.signBit32 x then -1 else 1

/-- A unit vector orthogonal to a unit vector. -/
def anyOrthonormal (a : Vec3) : Vec3 :=
  let sign := signum a.z
  let k := -1 / (sign + a.z)
  let b := a.x * a.y * k
  ⟨b, sign + a.y * a.y * k, -a.y⟩

end Vec3

namespace Vec4

/-- The identity rotation. -/
def identity : Vec4 := ⟨0, 0, 0, 1⟩

/-- The dot product of four components, summed as `(x + z) + (y + w)`. -/
def dot (a b : Vec4) : Float32 := (a.x * b.x + a.z * b.z) + (a.y * b.y + a.w * b.w)

/-- Every component times a scalar. -/
def scale (a : Vec4) (s : Float32) : Vec4 := a.map (· * s)

/-- The vector divided by its length. -/
def normalize (a : Vec4) : Vec4 :=
  let len := (dot a a).sqrt
  a.map (· / len)

/-- The vector scaled by the reciprocal of its length, or zero when that reciprocal is not a
positive finite number. -/
def normalizeOrZero (a : Vec4) : Vec4 :=
  let rcp := 1 / (dot a a).sqrt
  if rcp.isFinite && rcp > 0 then a.scale rcp else zero

/-- Linear blend `a * (1 - t) + b * t` of each component, exact at both ends. -/
def lerp (a b : Vec4) (t : Float32) : Vec4 := Vec4.zipWith (fun x y => x * (1 - t) + y * t) a b

/-- The conjugate rotation: the vector part negated. -/
def conjugate (q : Vec4) : Vec4 := ⟨-q.x, -q.y, -q.z, q.w⟩

/-- The quaternion product `l * r`, each component summed as `(t₀ + t₁) + (t₂ + t₃)`. -/
def mulQuat (l r : Vec4) : Vec4 :=
  ⟨(l.w * r.x + l.x * r.w) + (l.y * r.z - l.z * r.y),
   (l.w * r.y - l.x * r.z) + (l.y * r.w + l.z * r.x),
   (l.w * r.z + l.x * r.y) + (l.z * r.w - l.y * r.x),
   (l.w * r.w - l.x * r.x) + -(l.y * r.y + l.z * r.z)⟩

/-- The vector part of a quaternion. -/
def xyz (q : Vec4) : Vec3 := ⟨q.x, q.y, q.z⟩

/-- A vector rotated by a unit quaternion: `v (w² - b·b) + b (2 v·b) + (b × v) (2 w)`. -/
def rotate (q : Vec4) (v : Vec3) : Vec3 :=
  let b := q.xyz
  let b2 := Vec3.dot b b
  let a := v.scale (q.w * q.w - b2)
  let c := b.scale (Vec3.dot v b * 2)
  let d := (Vec3.cross b v).scale (q.w * 2)
  (a.add c).add d

/-- The rotation of an angle (radians) about a unit axis. -/
def ofAxisAngle (axis : Vec3) (angle : Float32) : Vec4 :=
  let h := angle * 0.5
  let v := axis.scale h.sin
  ⟨v.x, v.y, v.z, h.cos⟩

/-- The rotation by yaw `a` about Y, then pitch `b` about X, then roll `c` about Z (radians). -/
def ofEuler (a b c : Float32) : Vec4 :=
  let ha := a * 0.5
  let hb := b * 0.5
  let hc := c * 0.5
  let (sy, cy) := (ha.sin, ha.cos)
  let (sx, cx) := (hb.sin, hb.cos)
  let (sz, cz) := (hc.sin, hc.cos)
  let cc := cy * cz
  let cs := cy * sz
  let sc := sy * cz
  let ss := sy * sz
  ⟨cx * ss + sx * cc, cx * sc - sx * cs, cx * cs - sx * sc, cx * cc + sx * ss⟩

/-- The rotation matrix of a unit quaternion, as its three columns. -/
def toColumns (q : Vec4) : Vec3 × Vec3 × Vec3 :=
  let x2 := q.x + q.x
  let y2 := q.y + q.y
  let z2 := q.z + q.z
  let xx := q.x * x2
  let xy := q.x * y2
  let xz := q.x * z2
  let yy := q.y * y2
  let yz := q.y * z2
  let zz := q.z * z2
  let wx := q.w * x2
  let wy := q.w * y2
  let wz := q.w * z2
  (⟨1 - (yy + zz), xy + wz, xz - wy⟩, ⟨xy - wz, 1 - (xx + zz), yz + wx⟩,
    ⟨xz + wy, yz - wx, 1 - (xx + yy)⟩)

/-- The yaw, pitch and roll (radians) of a rotation, read from its matrix. The cosine of the
pitch is measured on the matrix's Y row; near the poles the roll is zero and the yaw takes the
whole turn. -/
def toEuler (q : Vec4) : Float32 × Float32 × Float32 :=
  let (c0, c1, c2) := toColumns q
  let cy := (c1.y * c1.y + c0.y * c0.y).sqrt
  if cy > 16 * Number.epsilon then
    (c2.x.atan2 c2.z, (-c2.y).atan2 cy, c0.y.atan2 c1.y)
  else
    ((-c0.z).atan2 c0.x, (-c2.y).atan2 cy, 0)

/-- The rotation of a matrix given by its columns, choosing the largest of the four
components to divide by. -/
def ofColumns (xAxis yAxis zAxis : Vec3) : Vec4 :=
  let (m00, m01, m02) := (xAxis.x, xAxis.y, xAxis.z)
  let (m10, m11, m12) := (yAxis.x, yAxis.y, yAxis.z)
  let (m20, m21, m22) := (zAxis.x, zAxis.y, zAxis.z)
  if m22 ≤ 0 then
    let dif10 := m11 - m00
    let omm22 := 1 - m22
    if dif10 ≤ 0 then
      let f := omm22 - dif10
      let inv := 0.5 / f.sqrt
      ⟨f * inv, (m01 + m10) * inv, (m02 + m20) * inv, (m12 - m21) * inv⟩
    else
      let f := omm22 + dif10
      let inv := 0.5 / f.sqrt
      ⟨(m01 + m10) * inv, f * inv, (m12 + m21) * inv, (m20 - m02) * inv⟩
  else
    let sum10 := m11 + m00
    let opm22 := 1 + m22
    if sum10 ≤ 0 then
      let f := opm22 - sum10
      let inv := 0.5 / f.sqrt
      ⟨(m02 + m20) * inv, (m12 + m21) * inv, f * inv, (m01 - m10) * inv⟩
    else
      let f := opm22 + sum10
      let inv := 0.5 / f.sqrt
      ⟨(m12 - m21) * inv, (m20 - m02) * inv, (m01 - m10) * inv, f * inv⟩

/-- The shortest rotation taking one unit direction to another; half a turn about some
orthogonal axis when they are opposite. -/
def ofArc (src dst : Vec3) : Vec4 :=
  let oneMinusEps : Float32 := 1 - 2 * Number.epsilon
  let d := Vec3.dot src dst
  if d > oneMinusEps then identity
  else if d < -oneMinusEps then ofAxisAngle (Vec3.anyOrthonormal src) Number.pi
  else
    let c := Vec3.cross src dst
    normalize ⟨c.x, c.y, c.z, 1 + d⟩

end Vec4

end NodeGraph
