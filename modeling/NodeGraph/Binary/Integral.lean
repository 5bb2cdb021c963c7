import NodeGraph.Binary.Round

/-!
# Integral parts and remainders of binary32 values

Rounding a binary32 value to an integer (down, up, toward zero, to nearest with either tie
rule), the remainder of a truncated division, and the saturating conversion to a 32-bit integer
are computed on the exact view `m * 2 ^ q`, so each result is the exact mathematical answer
written back into the format. A zero result keeps the sign of the input, and NaN and the
infinities pass through unchanged.
-/

namespace NodeGraph
namespace Binary

/-- The direction in which a value is brought to an integer. -/
inductive Rounding where
  | down
  | up
  | towardZero
  | nearestEven
  | nearestAway
deriving Repr, DecidableEq

/-- The integer nearest to `m / 2 ^ k` in the given direction, for a magnitude of the given sign. -/
def roundMagnitude (negative : Bool) (m k : Nat) (r : Rounding) : Nat :=
  let den := 2 ^ k
  let q := m / den
  let exact := m % den == 0
  match r with
  | .towardZero => q
  | .down => if negative && !exact then q + 1 else q
  | .up => if !negative && !exact then q + 1 else q
  | .nearestEven => roundDiv m den .toEven
  | .nearestAway => roundDiv m den .awayFromZero

/-- A binary32 value brought to an integer in the given direction. -/
def toIntegral (x : Float32) (r : Rounding) : Float32 :=
  let d := decode32 x
  match d.magnitude with
  | .finite v =>
    if 0 ≤ v.q then x
    else nearest32 d.negative (roundMagnitude d.negative v.m (-v.q).toNat r) 1 0
  | _ => x

/-- The largest integer not above the value. -/
def floor32 (x : Float32) : Float32 := toIntegral x .down

/-- The least integer not below the value. -/
def ceil32 (x : Float32) : Float32 := toIntegral x .up

/-- The nearest integer, halves to the even one. -/
def roundEven32 (x : Float32) : Float32 := toIntegral x .nearestEven

/-- The nearest integer, halves away from zero. -/
def roundAway32 (x : Float32) : Float32 := toIntegral x .nearestAway

/-- The remainder of the division truncated toward zero: `x - trunc (x / y) * y`, exactly, with
the sign of `x`. It is NaN when `x` is infinite, `y` is zero, or either is NaN, and `x` itself when
`y` is infinite. -/
def fmod32 (x y : Float32) : Float32 :=
  let nan := Float32.ofBits 0x7FC00000
  let dx := decode32 x
  let dy := decode32 y
  match dx.magnitude, dy.magnitude with
  | .finite a, .finite b =>
    if b.m = 0 then nan
    else if a.m = 0 then x
    else
      let q := min a.q b.q
      let ma := a.m * 2 ^ (a.q - q).toNat
      let mb := b.m * 2 ^ (b.q - q).toNat
      nearest32 dx.negative (ma % mb) 1 q
  | .finite _, .infinite => x
  | _, _ => nan

/-- The value truncated toward zero as a 32-bit integer: out-of-range values saturate at the
ends of the range, and NaN gives zero. -/
def toInt32Sat (x : Float32) : Int32 :=
  let d := decode32 x
  let lo : Int := -2147483648
  let hi : Int := 2147483647
  let clampInt (i : Int) : Int32 := Int32.ofInt (max lo (min hi i))
  match d.magnitude with
  | .nan => 0
  | .infinite => if d.negative then Int32.ofInt lo else Int32.ofInt hi
  | .finite v =>
    let n : Int :=
      if 0 ≤ v.q then (v.m * 2 ^ v.q.toNat : Nat) else (v.m / 2 ^ (-v.q).toNat : Nat)
    clampInt (if d.negative then -n else n)

/-- The binary32 value nearest to a 32-bit integer. -/
def ofInt32 (i : Int32) : Float32 := ofInt32Value i.toInt

end Binary
end NodeGraph
