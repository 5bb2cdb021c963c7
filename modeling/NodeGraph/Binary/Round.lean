import NodeGraph.Binary.Format

/-!
# Rounding exact ratios into a binary format

`Format.nearest` gives the bit pattern of the representable value nearest to
`num / den * 2 ^ shift`, ties to the even significand, overflowing to an infinity. It is the one
place where an exact quantity becomes a float: reading decimal text, converting integers, and
writing back integral parts and remainders all go through it.

`roundDiv` rounds a quotient of naturals to an integer under a tie rule; `roundDiv_near` says the
result is within half a unit of the exact quotient.
-/

namespace NodeGraph
namespace Binary

/-- How an exact half is rounded. -/
inductive Tie where
  | toEven
  | awayFromZero
deriving Repr, DecidableEq

/-- `num / den` rounded to an integer, halves going as `t` says. -/
def roundDiv (num den : Nat) (t : Tie) : Nat :=
  let q := num / den
  let r := num % den
  match compare (2 * r) den, t with
  | .lt, _ => q
  | .gt, _ => q + 1
  | .eq, .awayFromZero => q + 1
  | .eq, .toEven => if q % 2 == 0 then q else q + 1

/-- The rounded quotient is within half a unit of the exact one. -/
theorem roundDiv_near (num den : Nat) (t : Tie) (h : 0 < den) :
    2 * (roundDiv num den t * den) ≤ 2 * num + den ∧
      2 * num ≤ 2 * (roundDiv num den t * den) + den := by
  have e : den * (num / den) + num % den = num := Nat.div_add_mod num den
  have l : num % den < den := Nat.mod_lt _ h
  simp only [roundDiv]
  generalize num / den = q at *
  generalize num % den = r at *
  have hq : (q + 1) * den = den * q + den := by rw [Nat.add_mul, Nat.mul_comm]; simp
  have hq0 : q * den = den * q := Nat.mul_comm ..
  generalize den * q = p at *
  split
  · rename_i hc; rw [Nat.compare_eq_lt] at hc; omega
  · rename_i hc; rw [Nat.compare_eq_gt] at hc; omega
  · rename_i hc; rw [Nat.compare_eq_eq] at hc; omega
  · rename_i hc; rw [Nat.compare_eq_eq] at hc; split <;> omega

/-- `num * 2 ^ shift` as a fraction of naturals. -/
def scaleByTwoPow (num : Nat) (shift : Int) : Nat × Nat :=
  if 0 ≤ shift then (num * 2 ^ shift.toNat, 1) else (num, 2 ^ (-shift).toNat)

/-- The exponent of the leading bit of `num / den`, for positive `num` and `den`:
the `k` with `2 ^ k ≤ num / den < 2 ^ (k + 1)`. -/
def leadingExponent (num den : Nat) : Int :=
  let k : Int := (Nat.log2 num : Int) - Nat.log2 den
  let (n, d) := scaleByTwoPow num (-k)
  if d * den ≤ n then k else k - 1

namespace Format

/-- The bit pattern of the value nearest to `num / den * 2 ^ shift` with the given sign, ties to
the even significand; a magnitude at or past the top of the range becomes an infinity. -/
def nearest (f : Format) (negative : Bool) (num den : Nat) (shift : Int) : Nat :=
  if num = 0 ∨ den = 0 then f.zeroBits negative
  else
    let e := leadingExponent num den + shift
    let q := max (e - f.fractionBits) f.leastExponent
    let (n, d) := scaleByTwoPow num (shift - q)
    let m := roundDiv n (d * den) .toEven
    let (m, q) := if m = 2 * f.hidden then (f.hidden, q + 1) else (m, q)
    let sign := if negative then f.signBit else 0
    if m < f.hidden then sign + m
    else
      let field := q + f.bias + f.fractionBits
      if f.topField ≤ field then f.infinityBits negative
      else sign + field.toNat * f.hidden + (m - f.hidden)

end Format

/-- The binary32 value nearest to `± num / den * 2 ^ shift`. -/
def nearest32 (negative : Bool) (num den : Nat) (shift : Int) : Float32 :=
  Float32.ofBits (binary32.nearest negative num den shift).toUInt32

/-- The binary64 value nearest to `± num / den * 2 ^ shift`. -/
def nearest64 (negative : Bool) (num den : Nat) (shift : Int) : Float :=
  Float.ofBits (binary64.nearest negative num den shift).toUInt64

/-- The binary32 value nearest to an integer. -/
def ofInt32Value (i : Int) : Float32 := nearest32 (i < 0) i.natAbs 1 0

/-- The binary64 value of a binary32 value: every binary32 value is exact in binary64. -/
def widen (x : Float32) : Float :=
  let d := decode32 x
  match d.magnitude with
  | .nan => Float.ofBits 0x7FF8000000000000
  | .infinite => Float.ofBits (binary64.infinityBits d.negative).toUInt64
  | .finite v => nearest64 d.negative v.m 1 v.q

end Binary
end NodeGraph
