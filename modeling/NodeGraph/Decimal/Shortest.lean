import NodeGraph.Binary.Format

/-!
# Shortest decimals that read back

For a finite binary value `x = m * 2 ^ q`, `Finite.readsBack x d` holds when the decimal `d` lies
among the reals that round to `x` (to nearest, ties to even): the interval between the midpoints
to the two neighbours, ends included when `m` is even.

`Finite.shortest` tries the decimal grids of 1, 2, 3, … significant digits, starting at the
value's leading digit. On each grid only the value's two neighbours can read back; the first grid
with a hit wins, of two hits the nearer one, and an exact tie takes the upper one. Trailing zeros
are then moved into the exponent.
-/

namespace NodeGraph
namespace Decimal

open Binary

/-- A decimal `digits * 10 ^ exp`. -/
structure Dec where
  digits : Nat
  exp : Int
deriving Repr, DecidableEq

/-- Compares `a * 10 ^ i` with `n * 2 ^ j`, exactly. -/
def cmpScaled (a : Nat) (i : Int) (n : Nat) (j : Int) : Ordering :=
  compare (a * 10 ^ i.toNat * 2 ^ (-j).toNat) (n * 2 ^ j.toNat * 10 ^ (-i).toNat)

/-- The decimal lies among the reals that round to `x` (to nearest, ties to even). -/
def readsBack (x : Finite) (d : Dec) : Bool :=
  let lo := if x.narrowBelow then 4 * x.m - 1 else 4 * x.m - 2
  let hi := 4 * x.m + 2
  let incl := x.m % 2 == 0
  let cl := cmpScaled d.digits d.exp lo (x.q - 2)
  let ch := cmpScaled d.digits d.exp hi (x.q - 2)
  (cl == .gt || (incl && cl == .eq)) && (ch == .lt || (incl && ch == .eq))

/-- The value `m * 2 ^ q` over the grid `10 ^ g`, as a fraction `num / den` of naturals. -/
def overGrid (x : Finite) (g : Int) : Nat × Nat :=
  (x.m * 2 ^ x.q.toNat * 10 ^ (-g).toNat, 2 ^ (-x.q).toNat * 10 ^ g.toNat)

/-- The exponent of the leading decimal digit of a positive `m * 2 ^ q`: the `e` with
`10 ^ e ≤ m * 2 ^ q < 10 ^ (e + 1)`. The estimate from the bit length is off by at most a few
steps, which the exact comparisons then correct. -/
def leadingDigitExponent (x : Finite) : Int :=
  let bits : Int := (Nat.log2 x.m : Int) + x.q
  let guess : Int := (bits * 30103) / 100000
  let atLeast (e : Int) : Bool := cmpScaled 1 e x.m x.q != .gt
  let up := (List.range 4).foldl (fun e _ => if atLeast (e + 1) then e + 1 else e) guess
  (List.range 4).foldl (fun e _ => if atLeast e then e else e - 1) up

/-- Moves trailing zeros of the digits into the exponent. -/
def Dec.normalize (d : Dec) : Dec :=
  if h : d.digits ≠ 0 ∧ d.digits % 10 = 0 then
    have : d.digits / 10 < d.digits := Nat.div_lt_self (Nat.pos_of_ne_zero h.1) (by decide)
    Dec.normalize ⟨d.digits / 10, d.exp + 1⟩
  else d
termination_by d.digits

/-- The decimal of `n` significant digits chosen for `x`, if one reads back: of the value's two
neighbours on the grid, those that read back compete, the nearer wins, and a tie goes up. -/
def onGrid (x : Finite) (lead : Int) (n : Nat) : Option Dec :=
  let g := lead + 1 - n
  let (num, den) := overGrid x g
  let low := num / den
  let r := num % den
  let lowOk := readsBack x ⟨low, g⟩
  let highOk := r != 0 && readsBack x ⟨low + 1, g⟩
  if lowOk && highOk then
    if 2 * r < den then some ⟨low, g⟩ else some ⟨low + 1, g⟩
  else if lowOk then some ⟨low, g⟩
  else if highOk then some ⟨low + 1, g⟩
  else none

/-- The shortest decimal that reads back as `x`, nearest to it among those of its length, with
trailing zeros moved into the exponent. Zero is `⟨0, 0⟩`. -/
def shortest (x : Finite) : Dec :=
  if x.m = 0 then ⟨0, 0⟩
  else
    let lead := leadingDigitExponent x
    match (List.range 20).findSome? (fun i => onGrid x lead (i + 1)) with
    | some d => d.normalize
    | none =>
      let g := lead - 19
      let (num, den) := overGrid x g
      Dec.normalize ⟨num / den, g⟩

/-- The number of decimal digits of a natural number (one for zero). -/
def digitCount (n : Nat) : Nat := (Nat.toDigits 10 n).length

/-- The exponent of the leading digit of a non-zero decimal. -/
def Dec.lead (d : Dec) : Int := d.exp + digitCount d.digits - 1

end Decimal
end NodeGraph
