import NodeGraph.Value.Basic

/-!
# Interpolation

Blends and wraps shared by curves, ramps, timers and quaternion nodes: linear and cubic Hermite
blends, the four-component linear and spherical blends, the smoothstep polynomial, and the two
wraps of a time into `[0, length]` (repeating and ping-pong). The wraps clamp their result, so a
negative or NaN length is a fault.
-/

namespace NodeGraph
namespace Interpolation

open Number

/-- `a + (b - a) * t`. -/
def lerp (a b t : Float32) : Float32 := a + (b - a) * t

/-- The cubic Hermite blend of two points `p0`, `p1` with tangents `m0`, `m1` at `t`. -/
def hermite (p0 m0 p1 m1 t : Float32) : Float32 :=
  let t2 := t * t
  let t3 := t2 * t
  let h00 := 2 * t3 - 3 * t2 + 1
  let h10 := t3 - 2 * t2 + t
  let h01 := -2 * t3 + 3 * t2
  let h11 := t3 - t2
  h00 * p0 + h10 * m0 + h01 * p1 + h11 * m1

/-- `lerp` on each of four components. -/
def lerp4 (a b : Vec4) (t : Float32) : Vec4 := Vec4.zipWith (fun x y => lerp x y t) a b

/-- The sum of the squares of four components, in order. -/
def sumSquares (v : Vec4) : Float32 := v.x * v.x + v.y * v.y + v.z * v.z + v.w * v.w

/-- The spherical blend of two four-component rotations, taking the short way round. Nearly
parallel inputs (cosine above 0.9995) are blended linearly and renormalised, giving `a` back when
the blend has no length. -/
def slerp (a b : Vec4) (t : Float32) : Vec4 :=
  let dot := a.x * b.x + a.y * b.y + a.z * b.z + a.w * b.w
  let (b, dot) := if dot < 0 then (b.map (- ·), -dot) else (b, dot)
  if dot > 0.9995 then
    let result := lerp4 a b t
    let len := (sumSquares result).sqrt
    if len ≤ epsilon then a else result.map (· / len)
  else
    let theta0 := dot.acos
    let theta := theta0 * t
    let sin0 := theta0.sin
    let s0 := (theta0 - theta).sin / sin0
    let s1 := theta.sin / sin0
    Vec4.zipWith (fun x y => x * s0 + y * s1) a b

/-- The smoothstep polynomial `t * t * (3 - 2 * t)`. -/
def smooth (t : Float32) : Float32 := t * t * (3 - 2 * t)

/-- `t` wrapped into `[0, length]` by whole periods. -/
def «repeat» (t length : Float32) : Except Fault Float32 :=
  clamp (t - Binary.floor32 (t / length) * length) 0 length

/-- `t` moving back and forth between `0` and `length`. -/
def pingPong (t length : Float32) : Except Fault Float32 := do
  let t ← «repeat» t (length * 2)
  return length - (t - length).abs

end Interpolation
end NodeGraph
