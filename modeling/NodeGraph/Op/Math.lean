import NodeGraph.Noise.Perlin

/-!
# Math operations

The operations of the math node, on binary32 values and on 32-bit integers. Integer arithmetic
wraps; integer division truncates and gives zero where it is undefined (by zero, or the least
integer by minus one); the nearest power of two is computed exactly. Operations without an
integer form go through floats and back, saturating.

`closestPowerOfTwo` is zero for non-positive inputs and otherwise a power of two nearest to the
input, the larger one on ties; `2 ^ 31` does not fit, so `2 ^ 30` stands in for it.
-/

namespace NodeGraph

/-- The operation of a math node. -/
inductive MathOp where
  | multiply | divide | add | subtract | negative | log | pow | sqrt | exp
  | closestPowerOfTwo | perlinNoise | «repeat» | pingPong | abs | sign | round | floor | ceil
  | max | min | clamp01 | sin | cos | tan | asin | acos | atan | atan2
deriving DecidableEq, Repr, Inhabited

namespace MathOp

/-- All operations in their fixed order. -/
def all : List MathOp :=
  [multiply, divide, add, subtract, negative, log, pow, sqrt, exp, closestPowerOfTwo,
    perlinNoise, «repeat», pingPong, abs, sign, round, floor, ceil, max, min, clamp01, sin, cos,
    tan, asin, acos, atan, atan2]

/-- The operation at a position of the fixed order. -/
def ofIndex? (i : Nat) : Option MathOp := all[i]?

/-- The position of an operation in the fixed order. -/
def index (op : MathOp) : Nat := all.idxOf op

/-- The operation's name. -/
def label : MathOp → String
  | multiply => "Multiply" | divide => "Divide" | add => "Add" | subtract => "Subtract"
  | negative => "Negative" | log => "Log" | pow => "Pow" | sqrt => "Sqrt" | exp => "Exp"
  | closestPowerOfTwo => "ClosestPowerOfTwo" | perlinNoise => "PerlinNoise"
  | «repeat» => "Repeat" | pingPong => "PingPong" | abs => "Abs" | sign => "Sign"
  | round => "Round" | floor => "Floor" | ceil => "Ceil" | max => "Max" | min => "Min"
  | clamp01 => "Clamp01" | sin => "Sin" | cos => "Cos" | tan => "Tan" | asin => "Asin"
  | acos => "Acos" | atan => "Atan" | atan2 => "Atan2"

/-- The number of operands. -/
def arity : MathOp → Nat
  | multiply | divide | add | subtract | log | pow | perlinNoise | «repeat» | pingPong | max
  | min | atan2 => 2
  | _ => 1

/-- The smallest power of two at or above a positive natural. -/
def ceilPow2 (v : Nat) : Nat := if v ≤ 1 then 1 else 2 ^ (Nat.log2 (v - 1) + 1)

/-- The power of two nearest to `v`, the larger on ties; zero for `v ≤ 0`; `2 ^ 30` where the
nearest is `2 ^ 31`. -/
def closestPow2 (v : Int32) : Int32 :=
  if v ≤ 0 then 0
  else
    let n := v.toInt.toNat
    let upper := ceilPow2 n
    let lower := upper / 2
    let nearest := if 0 < lower ∧ n - lower < upper - n then lower else upper
    if nearest < 2 ^ 31 then Int32.ofNat nearest else Int32.ofNat (2 ^ 30)

/-- The operation on floats. -/
def apply (op : MathOp) (a b : Float32) : Except Fault Float32 :=
  match op with
  | multiply => pure (a * b)
  | divide => pure (a / b)
  | add => pure (a + b)
  | subtract => pure (a - b)
  | negative => pure (-a)
  | log => pure (a.log / b.log)
  | pow => pure (a.pow b)
  | sqrt => pure a.sqrt
  | exp => pure a.exp
  | closestPowerOfTwo => pure (Number.ofInt (closestPow2 (Number.toInt a)))
  | perlinNoise => pure (Noise.sample01 a b)
  | «repeat» => Interpolation.repeat a b
  | pingPong => Interpolation.pingPong a b
  | abs => pure a.abs
  | sign => pure (Number.signStep a)
  | round => pure (Binary.roundEven32 a)
  | floor => pure (Binary.floor32 a)
  | ceil => pure (Binary.ceil32 a)
  | max => pure (Number.maxNum a b)
  | min => pure (Number.minNum a b)
  | clamp01 => Number.clamp a 0 1
  | sin => pure a.sin
  | cos => pure a.cos
  | tan => pure a.tan
  | asin => pure a.asin
  | acos => pure a.acos
  | atan => pure a.atan
  | atan2 => pure (a.atan2 b)

/-- Truncated integer division, zero where it is undefined. -/
def divInt (a b : Int32) : Int32 :=
  if b = 0 ∨ (a = Int32.minValue ∧ b = -1) then 0 else Int32.ofInt (a.toInt.tdiv b.toInt)

/-- The operation on 32-bit integers. -/
def applyInt (op : MathOp) (a b : Int32) : Except Fault Int32 :=
  match op with
  | multiply => pure (a * b)
  | divide => pure (divInt a b)
  | add => pure (a + b)
  | subtract => pure (a - b)
  | negative => pure (-a)
  | abs => pure (if a < 0 then -a else a)
  | max => pure (if a < b then b else a)
  | min => pure (if b < a then b else a)
  | closestPowerOfTwo => pure (closestPow2 a)
  | _ => do
    let r ← op.apply (Number.ofInt a) (Number.ofInt b)
    pure (Number.toInt r)

theorem ofIndex?_index (op : MathOp) : ofIndex? op.index = some op := by
  cases op <;> rfl

end MathOp

end NodeGraph
