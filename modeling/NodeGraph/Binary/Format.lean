/-!
# Binary floating-point formats

A binary interchange format stores a sign bit, a biased exponent field and a fraction field.
This module reads those fields into exact natural numbers: a finite magnitude is `m * 2 ^ q`,
and the flag `narrowBelow` records the one place where the gap to the value below is half the
gap to the value above (a power of two above the least normal exponent).

Everything downstream (shortest decimal text, fixed places, reading decimals, integral parts)
works on this exact view, so no step depends on how the host machine rounds.
-/

-- Powers of naturals and integers are the exponentiation of their own types everywhere in the
-- library, also where an algebraic hierarchy is in scope and would offer a monoid's power (for a
-- literal exponent too): one definition then reads as one term in every context.
attribute [instance (high), default_instance (high)] instPowNat

namespace NodeGraph
namespace Binary

/-- A binary interchange format, given by the widths of its fraction and exponent fields. -/
structure Format where
  fractionBits : Nat
  exponentBits : Nat

/-- The 32-bit format: 23 fraction bits, 8 exponent bits. -/
def binary32 : Format where
  fractionBits := 23
  exponentBits := 8

/-- The 64-bit format: 52 fraction bits, 11 exponent bits. -/
def binary64 : Format where
  fractionBits := 52
  exponentBits := 11

namespace Format

/-- The exponent bias: an exponent field `e` of a normal value means `2 ^ (e - bias)`. -/
def bias (f : Format) : Nat := 2 ^ (f.exponentBits - 1) - 1

/-- The exponent field shared by the infinities and the NaNs. -/
def topField (f : Format) : Nat := 2 ^ f.exponentBits - 1

/-- The least power of two that is a unit of the format: the unit of the subnormals. -/
def leastExponent (f : Format) : Int := 1 - (f.bias : Int) - f.fractionBits

/-- The implicit leading bit of a normal significand, `2 ^ fractionBits`. -/
def hidden (f : Format) : Nat := 2 ^ f.fractionBits

/-- Bit position of the sign. -/
def signBit (f : Format) : Nat := 2 ^ (f.fractionBits + f.exponentBits)

end Format

/-- A finite non-negative magnitude `m * 2 ^ q`. -/
structure Finite where
  m : Nat
  q : Int
  /-- the gap to the value below is half the gap to the value above -/
  narrowBelow : Bool
deriving Repr, DecidableEq

/-- What a bit pattern denotes, apart from its sign. -/
inductive Magnitude where
  | nan
  | infinite
  | finite (x : Finite)
deriving Repr, DecidableEq

/-- A decoded bit pattern: its sign bit and its magnitude. -/
structure Decoded where
  negative : Bool
  magnitude : Magnitude
deriving Repr, DecidableEq

namespace Format

/-- Splits a bit pattern of the format into sign and magnitude. -/
def decode (f : Format) (bits : Nat) : Decoded :=
  let frac := bits % f.hidden
  let field := bits / f.hidden % 2 ^ f.exponentBits
  let negative := bits / f.signBit % 2 == 1
  let magnitude :=
    if field == f.topField then
      if frac == 0 then Magnitude.infinite else Magnitude.nan
    else if field == 0 then
      Magnitude.finite ⟨frac, f.leastExponent, false⟩
    else
      Magnitude.finite ⟨f.hidden + frac, (field : Int) - f.bias - f.fractionBits,
        frac == 0 && field > 1⟩
  ⟨negative, magnitude⟩

/-- The bit pattern of an infinity of the given sign. -/
def infinityBits (f : Format) (negative : Bool) : Nat :=
  (if negative then f.signBit else 0) + f.topField * f.hidden

/-- The bit pattern of a zero of the given sign. -/
def zeroBits (f : Format) (negative : Bool) : Nat :=
  if negative then f.signBit else 0

end Format

/-- The fields of a binary32 value. -/
def decode32 (x : Float32) : Decoded := binary32.decode x.toBits.toNat

/-- The fields of a binary64 value. -/
def decode64 (x : Float) : Decoded := binary64.decode x.toBits.toNat

/-- Whether a binary32 value has its sign bit set (true also for `-0` and a negative NaN). -/
def signBit32 (x : Float32) : Bool := (decode32 x).negative

end Binary
end NodeGraph
