import NodeGraph.Noise.Stream
import NodeGraph.Curve.Interpolation

/-!
# Gradient noise

Two-dimensional gradient noise on the integer lattice. Each lattice corner hashes its cell
coordinates and a seed into a table of 1753 unit gradients; the noise at a point blends the four
corner contributions with the smoothstep weights. A positive repeat size wraps the cell
coordinates so the noise tiles.

Fractal sums add octaves of the noise at growing frequency (the lacunarity) and shrinking
amplitude (the gain): `fbm` adds the noise itself, `billow` its folded absolute value, `ridged`
the square of one minus the absolute value. `fbm` and `ridged` also shift each octave by a
halving offset.
-/

namespace NodeGraph
namespace Noise

open Interpolation

/-- The number of gradients in the table. -/
def gradientCount : Nat := 1753

/-- The seed the gradient table is drawn from. -/
def gradientSeed : UInt64 := 7852384

/-- The unit vector at an angle: `(cos a, sin a)`. -/
def unitAt (a : Float32) : Vec2 := ⟨a.cos, a.sin⟩

/-- The gradient table: 1753 unit vectors at angles drawn uniformly from `[0, 2π)`. -/
def gradients : Array Vec2 :=
  let step (acc : Stream × Array Vec2) : Stream × Array Vec2 :=
    let (a, s) := drawBelow 64 0 Number.tau acc.1
    (s, acc.2.push (unitAt a))
  (iterate step gradientCount (Stream.ofKey (keyOfSeed gradientSeed), #[])).2

/-- The contribution of the lattice corner `(x, y)` to a point at offset `(dx, dy)` from it. -/
def gradient (x y : Int32) (dx dy : Float32) (seed : Int32) : Float32 :=
  let hash := ((x ^^^ (y <<< 7)) ^^^ seed) &&& 0x7FFFFFFF
  let g := gradients.getD (hash.toInt.toNat % gradientCount) ⟨0, 0⟩
  g.x * dx + g.y * dy

/-- A cell coordinate wrapped by the repeat size (truncated remainder); unchanged when the size
is zero or the remainder is undefined. -/
def wrapCell (cell repeatSize : Int32) : Int32 :=
  if repeatSize = 0 ∨ (cell = Int32.minValue ∧ repeatSize = -1) then cell
  else Int32.ofInt (cell.toInt.tmod repeatSize.toInt)

/-- Gradient noise at `(x, y)`. -/
def perlin (x y : Float32) (repeatSize seed : Int32) : Float32 :=
  let ix0 := Number.toInt x
  let iy0 := Number.toInt y
  let fx0 := x - Number.ofInt ix0
  let fy0 := y - Number.ofInt iy0
  let fx1 := fx0 - 1
  let fy1 := fy0 - 1
  let xs := smooth fx0
  let ys := smooth fy0
  let ix1 := wrapCell (ix0 + 1) repeatSize
  let iy1 := wrapCell (iy0 + 1) repeatSize
  let ix0 := wrapCell ix0 repeatSize
  let iy0 := wrapCell iy0 repeatSize
  let p00 := gradient ix0 iy0 fx0 fy0 seed
  let p10 := gradient ix1 iy0 fx1 fy0 seed
  let p01 := gradient ix0 iy1 fx0 fy1 seed
  let p11 := gradient ix1 iy1 fx1 fy1 seed
  lerp (lerp p00 p10 xs) (lerp p01 p11 xs) ys

/-- Parameters of a fractal sum. -/
structure Fractal where
  octaves : Int32 := 1
  lacunarity : Int32 := 2
  gain : Float32 := 0.5
  repeatSize : Int32 := 0
  seed : Int32 := 0

/-- The running state of a fractal sum between octaves. -/
structure Octave where
  x : Float32
  y : Float32
  sum : Float32
  amp : Float32
  shift : Float32
  repeatSize : Int32
  seed : Int32

/-- Adds `n` more octaves to a fractal sum. -/
def addOctaves (f : Fractal) (shifted : Bool) (layer : Float32 → Float32) :
    Nat → Octave → Octave
  | 0, o => o
  | n + 1, o =>
    let lac := Number.ofInt f.lacunarity
    let x := o.x * lac
    let y := o.y * lac
    let (x, y, shift) := if shifted then (x + o.shift, y + o.shift, o.shift * 0.5)
      else (x, y, o.shift)
    let repeatSize := o.repeatSize * f.lacunarity
    let seed := o.seed + 1
    let amp := o.amp * f.gain
    let sum := o.sum + layer (perlin x y repeatSize seed) * amp
    addOctaves f shifted layer n ⟨x, y, sum, amp, shift, repeatSize, seed⟩

/-- The fractal sum of a layer function over the octaves. -/
def Fractal.sum (f : Fractal) (x y : Float32) (shifted : Bool) (layer : Float32 → Float32) :
    Float32 :=
  let first := layer (perlin x y f.repeatSize f.seed)
  let more := (f.octaves.toInt - 1).toNat
  (addOctaves f shifted layer more ⟨x, y, first, 1, 0.5, f.repeatSize, f.seed⟩).sum

/-- Fractal Brownian motion: shifted octaves of the noise itself. -/
def fbm (x y : Float32) (f : Fractal) : Float32 := f.sum x y true id

/-- Billowed noise: unshifted octaves of `2 |n| - 1`. -/
def billow (x y : Float32) (f : Fractal) : Float32 := f.sum x y false (fun n => n.abs * 2 - 1)

/-- Ridged noise: shifted octaves of `(1 - |n|)²`. -/
def ridged (x y : Float32) (f : Fractal) : Float32 :=
  f.sum x y true (fun n => let r := 1 - n.abs; r * r)

/-- Single-octave noise mapped to `[0, 1]`. -/
def sample01 (x y : Float32) : Float32 := perlin x y 0 0 * 0.5 + 0.5

end Noise
end NodeGraph
