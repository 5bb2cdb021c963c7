import NodeGraph.Decimal.Shortest
import NodeGraph.Binary.Round

/-!
# Reading numbers from text

A float literal is an optional sign followed by `inf`, `infinity` or `nan` in any case, or by
decimal digits with an optional point (at least one digit on either side of it) and an optional
exponent `e`/`E` with an optional sign and at least one digit. Its value is rounded once, from
the exact decimal, to the nearest binary32 value.

An integer literal is an optional sign followed by at least one decimal digit, and must fit in
32 bits.
-/

namespace NodeGraph
namespace Decimal

open Binary

/-- A float literal as written. -/
inductive Literal where
  | nan (negative : Bool)
  | infinity (negative : Bool)
  /-- `± digits * 10 ^ exp` -/
  | finite (negative : Bool) (digits : Nat) (exp : Int)
deriving Repr, DecidableEq

/-- The value of a list of decimal digit characters. -/
def digitsValue (cs : List Char) : Nat :=
  cs.foldl (fun acc c => acc * 10 + (c.toNat - '0'.toNat)) 0

/-- Splits off a leading sign: `true` for `-`. -/
def splitSign : List Char → Bool × List Char
  | '-' :: rest => (true, rest)
  | '+' :: rest => (false, rest)
  | cs => (false, cs)

/-- The exponent part after `e` or `E`: an optional sign and at least one digit, nothing after. -/
def readExponent (cs : List Char) : Option Int :=
  let (neg, rest) := splitSign cs
  if !rest.isEmpty && rest.all Char.isDigit then
    let v : Int := digitsValue rest
    some (if neg then -v else v)
  else none

/-- Reads a float literal; `none` when the text is not one. -/
def readLiteral (cs : List Char) : Option Literal :=
  let (neg, rest) := splitSign cs
  let lower := rest.map Char.toLower
  if lower = "inf".toList ∨ lower = "infinity".toList then some (.infinity neg)
  else if lower = "nan".toList then some (.nan neg)
  else
    let whole := rest.takeWhile Char.isDigit
    let afterWhole := rest.dropWhile Char.isDigit
    let (frac, afterFrac) := match afterWhole with
      | '.' :: more => (more.takeWhile Char.isDigit, more.dropWhile Char.isDigit)
      | _ => ([], afterWhole)
    if whole.isEmpty && frac.isEmpty then none
    else
      let exp? : Option Int := match afterFrac with
        | [] => some 0
        | c :: more => if c = 'e' ∨ c = 'E' then readExponent more else none
      exp?.map fun e => .finite neg (digitsValue (whole ++ frac)) (e - frac.length)

/-- The binary32 value of a literal, rounded to nearest with ties to even. -/
def Literal.toFloat32 : Literal → Float32
  | .nan neg => Float32.ofBits (if neg then 0xFFC00000 else 0x7FC00000)
  | .infinity neg => Float32.ofBits (binary32.infinityBits neg).toUInt32
  | .finite neg digits exp =>
    if digits = 0 then nearest32 neg 0 1 0
    else
      let lead := exp + digitCount digits - 1
      if 39 < lead then Float32.ofBits (binary32.infinityBits neg).toUInt32
      else if lead < -47 then nearest32 neg 0 1 0
      else nearest32 neg (digits * 10 ^ exp.toNat) (10 ^ (-exp).toNat) 0

/-- Reads a binary32 value from text that is exactly a float literal. -/
def readFloat32 (cs : List Char) : Option Float32 := (readLiteral cs).map Literal.toFloat32

/-- Reads a 32-bit integer from text that is exactly an integer literal in range. -/
def readInt32 (cs : List Char) : Option Int32 :=
  let (neg, rest) := splitSign cs
  if !rest.isEmpty && rest.all Char.isDigit then
    let v : Int := digitsValue rest
    let v := if neg then -v else v
    if -2147483648 ≤ v ∧ v ≤ 2147483647 then some (Int32.ofInt v) else none
  else none

/-- Reads a natural number below `bound` written with decimal digits only. -/
def readNatBelow (cs : List Char) (bound : Nat) : Option Nat :=
  if !cs.isEmpty && cs.all Char.isDigit then
    let v := digitsValue cs
    if v < bound then some v else none
  else none

end Decimal
end NodeGraph
