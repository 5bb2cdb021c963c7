import NodeGraph.Binary.Integral
import NodeGraph.Value.Type
import NodeGraph.Decimal.Layout

/-!
# Scalar rules and faults

The scalar operations the graph's nodes are built from, each stated on binary32 values: maximum
and minimum that ignore a NaN operand, clamping, the Euclidean remainder, conversions between
degrees and radians, the sign step, and the constants the nodes use.

A fault stops the computation that meets it and reports its message. Five can be reached: clamping
with bounds out of order, clamping a key position into the inner positions of a one-key curve,
looking up a ramp at a NaN time, an id counter leaving the 32-bit range, and reading an input as a
kind its source does not produce.
-/

namespace NodeGraph

/-- An integer step that can leave the range of its type. -/
inductive Arith where
  | add
  | subtract
deriving DecidableEq, Repr

/-- The verb naming an integer step. -/
def Arith.verb : Arith → String
  | .add => "add"
  | .subtract => "subtract"

/-- A failure that stops the computation that meets it. -/
inductive Fault where
  /-- a clamp whose lower bound is not at most its upper bound -/
  | clampBounds (lo hi : Float32)
  /-- a position clamped between bounds out of order -/
  | indexBounds (lo hi : Nat)
  /-- an integer step left the range of its type -/
  | overflow (step : Arith)
  /-- a node was read as a kind it does not produce -/
  | kindMismatch (node : Int) (produced expected : ValueType)

namespace Fault

/-- The message reported for a fault. -/
def message : Fault → String
  | .clampBounds lo hi =>
    "min > max, or either was NaN. min = " ++ Decimal.general32 lo ++ ", max = " ++
      Decimal.general32 hi
  | .indexBounds lo hi => "min > max. min = " ++ toString lo ++ ", max = " ++ toString hi
  | .overflow step => "attempt to " ++ step.verb ++ " with overflow"
  | .kindMismatch node produced expected =>
    "node " ++ toString node ++ " produces " ++ produced.name ++ " but was evaluated as " ++
      expected.name

end Fault

end NodeGraph

namespace NodeGraph
namespace Number

open Binary

/-- The binary32 value with the given bit pattern. -/
def bits (b : UInt32) : Float32 := Float32.ofBits b

/-- The nearest binary32 value to π. -/
def pi : Float32 := bits 0x40490FDB

/-- The nearest binary32 value to 2π. -/
def tau : Float32 := bits 0x40C90FDB

/-- Degrees in one radian, rounded to binary32. -/
def degreesPerRadian : Float32 := bits 0x42652EE1

/-- The gap between 1 and the next binary32 value. -/
def epsilon : Float32 := bits 0x34000000

/-- The largest finite binary32 value. -/
def maxFinite : Float32 := bits 0x7F7FFFFF

/-- A quiet NaN. -/
def nan : Float32 := bits 0x7FC00000

/-- Positive infinity. -/
def infinity : Float32 := bits 0x7F800000

/-- The larger of two values; a NaN operand is ignored, and of two equal values (such as `-0` and
`0`) the second is kept. -/
def maxNum (a b : Float32) : Float32 :=
  if a.isNaN then b else if b.isNaN then a else if b < a then a else b

/-- The smaller of two values; a NaN operand is ignored, and of two equal values (such as `-0` and
`0`) the second is kept. -/
def minNum (a b : Float32) : Float32 :=
  if a.isNaN then b else if b.isNaN then a else if a < b then a else b

/-- `x` brought into `[lo, hi]`; a NaN `x` stays NaN. The bounds must be ordered, and neither may
be NaN. -/
def clamp (x lo hi : Float32) : Except Fault Float32 :=
  if lo ≤ hi then
    let r := if x < lo then lo else x
    .ok (if hi < r then hi else r)
  else .error (.clampBounds lo hi)

/-- The Euclidean remainder: the truncated remainder, moved up by `|b|` when it is negative. -/
def remEuclid (a b : Float32) : Float32 :=
  let r := fmod32 a b
  if r < 0 then r + b.abs else r

/-- Radians to degrees. -/
def toDegrees (x : Float32) : Float32 := x * degreesPerRadian

/-- Degrees to radians. -/
def toRadians (x : Float32) : Float32 := x * (pi / 180)

/-- One for values at or above zero, minus one otherwise (also for NaN). -/
def signStep (a : Float32) : Float32 := if 0 ≤ a then 1 else -1

/-- The fifth power by squaring: `x * ((x * x) * (x * x))`. -/
def pow5 (x : Float32) : Float32 :=
  let x2 := x * x
  x * (x2 * x2)

/-- The binary32 value of a 32-bit integer. -/
def ofInt (i : Int32) : Float32 := ofInt32 i

/-- A binary32 value truncated to a 32-bit integer, saturating, NaN to zero. -/
def toInt (x : Float32) : Int32 := toInt32Sat x

theorem clamp_ok_of_le (x lo hi : Float32) (h : lo ≤ hi) :
    clamp x lo hi = .ok (if hi < (if x < lo then lo else x) then hi else (if x < lo then lo else x)) := by
  simp [clamp, h]

end Number
end NodeGraph
