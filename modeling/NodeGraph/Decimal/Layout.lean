import NodeGraph.Decimal.Shortest
import NodeGraph.Binary.Round

/-!
# Writing binary32 and binary64 values as text

Three layouts are used by the graph's text and its reports:

* `plain`: the shortest decimal that reads back, always positional (`0.1`, `1e30` as
  `1000000000000000000000000000000`, `0.0000001`), integers without a point, `-0` for negative zero;
* `general`: the same digits, positional with at least one fractional digit when the leading digit's
  exponent is in `[-4, 16)` (`1.0`, `0.5`), otherwise scientific (`1e-7`, `1.5e16`);
* `places n`: the exact value rounded to `n` fractional digits, a half going to the even neighbour.

NaN is written `NaN` and the infinities `inf` and `-inf` in every layout.
-/

namespace NodeGraph
namespace Decimal

open Binary

/-- `n` zero characters. -/
def zeros (n : Nat) : List Char := List.replicate n '0'

/-- The characters of a natural number in base ten. -/
def natChars (n : Nat) : List Char := Nat.toDigits 10 n

/-- The digits of `d` written out positionally, with at least `minFrac` fractional digits. -/
def Dec.positional (d : Dec) (minFrac : Nat) : List Char :=
  let s := natChars d.digits
  if 0 ≤ d.exp then
    s ++ zeros d.exp.toNat ++ (if minFrac = 0 then [] else '.' :: zeros minFrac)
  else
    let k := (-d.exp).toNat
    let frac := if k < minFrac then zeros (minFrac - k) else []
    if k < s.length then
      s.take (s.length - k) ++ '.' :: s.drop (s.length - k) ++ frac
    else
      '0' :: '.' :: zeros (k - s.length) ++ s ++ frac

/-- The digits of `d` in scientific form: one digit before the point, the rest after it (none
when there is one digit), then `e` and the exponent of the leading digit. -/
def Dec.scientific (d : Dec) : List Char :=
  let s := natChars d.digits
  let e := d.lead
  let mant := match s with
    | c :: rest@(_ :: _) => c :: '.' :: rest
    | cs => cs
  let expText := if e < 0 then '-' :: natChars e.natAbs else natChars e.natAbs
  mant ++ 'e' :: expText

/-- How the shortest digits of a value are laid out. -/
structure Style where
  /-- leading-digit exponents `e` with `lo ≤ e < hi` are positional; `none`: always positional -/
  positionalRange : Option (Int × Int)
  /-- least number of fractional digits in positional form -/
  minFraction : Nat

/-- Always positional, integers without a point. -/
def Style.plain : Style where
  positionalRange := none
  minFraction := 0

/-- Positional for leading exponents in `[-4, 16)` with at least one fractional digit, else
scientific. -/
def Style.general : Style where
  positionalRange := some (-4, 16)
  minFraction := 1

/-- The text of a non-negative decimal in a style. -/
def Style.render (st : Style) (d : Dec) : List Char :=
  if d.digits = 0 then d.positional st.minFraction
  else match st.positionalRange with
    | none => d.positional st.minFraction
    | some (lo, hi) =>
      if lo ≤ d.lead ∧ d.lead < hi then d.positional st.minFraction else d.scientific

/-- The text of a decoded value in a style, with its sign. -/
def Style.renderDecoded (st : Style) (v : Decoded) : String :=
  match v.magnitude with
  | .nan => "NaN"
  | .infinite => if v.negative then "-inf" else "inf"
  | .finite x =>
    let body := st.render (shortest x)
    String.ofList (if v.negative then '-' :: body else body)

/-- A binary32 value in the plain layout. -/
def plain32 (x : Float32) : String := Style.plain.renderDecoded (decode32 x)

/-- A binary32 value in the general layout. -/
def general32 (x : Float32) : String := Style.general.renderDecoded (decode32 x)

/-- A binary64 value in the general layout. -/
def general64 (x : Float) : String := Style.general.renderDecoded (decode64 x)

/-- The exact value of a finite magnitude rounded to `n` fractional digits, halves to even, as
the decimal `digits * 10 ^ (-n)`. -/
def placesOf (x : Finite) (n : Nat) : Dec :=
  let num := x.m * 2 ^ x.q.toNat * 10 ^ n
  let den := 2 ^ (-x.q).toNat
  ⟨roundDiv num den .toEven, -(n : Int)⟩

/-- A binary32 value with exactly `n` fractional digits (the sign is kept even when the rounded
digits are all zero). -/
def places32 (x : Float32) (n : Nat) : String :=
  let v := decode32 x
  match v.magnitude with
  | .nan => "NaN"
  | .infinite => if v.negative then "-inf" else "inf"
  | .finite f =>
    let d := placesOf f n
    let s := natChars d.digits
    let body :=
      if n = 0 then s
      else
        let s := if s.length ≤ n then zeros (n + 1 - s.length) ++ s else s
        s.take (s.length - n) ++ '.' :: s.drop (s.length - n)
    String.ofList (if v.negative then '-' :: body else body)

end Decimal
end NodeGraph
