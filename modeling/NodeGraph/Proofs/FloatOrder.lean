import Mathlib
import NodeGraph.Binary.Format

/-!
# The order of binary32 floats

Comparisons of `Float32` values unpack both floats and compare case by case, with NaN comparable
to nothing and both zeros equal. Unpacking a word gives only canonical values
(`canonical_unpack`), and on those the case table is the order of one integer, the rank
(`compare_eq_rank`). So away from NaN, `≤`, `<` and `==` on floats are `≤`, `<` and `=` on ranks
(`le_iff_rank`, `lt_iff_rank`, `beq_iff_rank`), and floats inherit transitivity and, away from NaN,
totality.
-/

namespace NodeGraph
namespace FloatOrder

open Float.Model UnpackedFloat

/-- The unpacked values a binary32 word unpacks to: the specials, and finite values whose mantissa
fits 24 bits, normal (top bit set) unless the exponent is the least one. -/
inductive Canonical : UnpackedFloat → Prop
  | notANumber : Canonical .notANumber
  | infinity (s : Sign) : Canonical (.infinity s)
  | zero (s : Sign) : Canonical (.zero s)
  | finite (s : Sign) (m : Nat) (e : Int) (h : 0 < m) (hm : m < 2 ^ 24) (he : -149 ≤ e)
      (he' : e ≤ 104) (hn : e = -149 ∨ 2 ^ 23 ≤ m) : Canonical (.finite s m e h)

theorem toNat_one_append {w : Nat} (v : BitVec w) : (1#1 ++ v).toNat = 2 ^ w + v.toNat := by
  rw [BitVec.toNat_append, ← Nat.shiftLeft_add_eq_or_of_lt v.isLt]
  simp [Nat.shiftLeft_eq]

theorem canonical_unpack (b : BitVec Format.binary32.numBits) :
    Canonical (unpack .binary32 b) := by
  have hbias : ((Format.binary32.exponentBias : Nat) : Int) = 127 := rfl
  have hmb : ((Format.binary32.mantissaBitsWithoutImplicit : Nat) : Int) = 23 := rfl
  rw [UnpackedFloat.unpack]
  split
  · split
    · exact .infinity _
    · exact .notANumber
  · rename_i hnotinf
    have hexpLt : (unpackExponent b).toNat < 256 := (unpackExponent b).isLt
    have hmlt : (unpackMantissa b).toNat < 2 ^ 23 := (unpackMantissa b).isLt
    split
    · rename_i hzeroexp
      split
      · exact .zero _
      · -- a subnormal: the stored mantissa with the least exponent
        rename_i hmnz
        have hexp0 : (unpackExponent b).toNat = 0 := by
          simp [BitVec.toNat_eq] at hzeroexp; exact hzeroexp
        have hpos : (unpackMantissa b).toNat ≠ 0 := by
          simpa [BitVec.toNat_eq] using hmnz
        refine .finite _ _ _ _ (by omega) ?_ ?_ (.inl ?_) <;> rw [hexp0, hbias, hmb] <;> omega
    · -- a normal: the implicit top bit is put back
      rename_i hnzexp
      have happ := toNat_one_append (unpackMantissa b)
      simp [BitVec.toNat_eq] at hnotinf hnzexp
      refine .finite _ _ _ _ ?_ ?_ ?_ (.inr ?_) <;> simp only [happ, hbias, hmb] <;> omega

/-- The position of a finite magnitude `m * 2 ^ e` among the canonical ones. -/
def magnitude (m : Nat) (e : Int) : Int := m + (e + 149) * 2 ^ 23

/-- The rank of an unpacked value: its place on the line of all binary32 values, both zeros at
`0` and the infinities one past the largest finite magnitudes. -/
def rank : UnpackedFloat → Int
  | .notANumber => 0
  | .infinity s => s.apply (2 ^ 31 - 2 ^ 23)
  | .zero _ => 0
  | .finite s m e _ => s.apply (magnitude m e)

theorem compare_int (a b : Int) :
    compare a b = if a < b then .lt else if a = b then .eq else .gt := rfl

theorem compare_nat (a b : Nat) :
    compare a b = if a < b then .lt else if a = b then .eq else .gt := rfl

/-- Comparing canonical positive values exponent first, then mantissa, is comparing their
magnitudes: a larger exponent means a normal mantissa, which no smaller exponent can reach. -/
theorem then_compare {m₁ m₂ : Nat} {e₁ e₂ : Int} (h₁ : e₁ = -149 ∨ 2 ^ 23 ≤ m₁)
    (h₂ : e₂ = -149 ∨ 2 ^ 23 ≤ m₂) (hm₁ : m₁ < 2 ^ 24) (hm₂ : m₂ < 2 ^ 24)
    (he₁ : -149 ≤ e₁) (he₂ : -149 ≤ e₂) :
    (compare e₁ e₂).then (compare m₁ m₂) = compare (magnitude m₁ e₁) (magnitude m₂ e₂) := by
  simp only [compare_int, compare_nat, magnitude]
  split_ifs <;> first | rfl | omega

theorem magnitude_bounds {m : Nat} {e : Int} (h : 0 < m) (hm : m < 2 ^ 24) (he : -149 ≤ e)
    (he' : e ≤ 104) : 0 < magnitude m e ∧ magnitude m e < 2 ^ 31 - 2 ^ 23 := by
  unfold magnitude
  omega

/-- On canonical values other than NaN, the comparison of the float model is the comparison of
ranks. -/
theorem compare_eq_rank {a b : UnpackedFloat} (ha : Canonical a) (hb : Canonical b)
    (na : a ≠ .notANumber) (nb : b ≠ .notANumber) :
    a.compare b = some (compare (rank a) (rank b)) := by
  cases ha with
  | notANumber => exact absurd rfl na
  | infinity s =>
    cases hb with
    | notANumber => exact absurd rfl nb
    | infinity s' => cases s <;> cases s' <;> rfl
    | zero s' => cases s <;> rfl
    | finite s' m e h hm he he' hn =>
      have := magnitude_bounds h hm he he'
      cases s <;> cases s' <;> simp only [UnpackedFloat.compare, rank, Sign.apply, compare_int] <;>
        split_ifs <;> first | rfl | omega
  | zero s =>
    cases hb with
    | notANumber => exact absurd rfl nb
    | infinity s' => cases s' <;> rfl
    | zero s' => rfl
    | finite s' m e h hm he he' hn =>
      have := magnitude_bounds h hm he he'
      cases s' <;> simp only [UnpackedFloat.compare, rank, Sign.apply, compare_int] <;>
        split_ifs <;> first | rfl | omega
  | finite s m e h hm he he' hn =>
    have := magnitude_bounds h hm he he'
    cases hb with
    | notANumber => exact absurd rfl nb
    | infinity s' =>
      cases s <;> cases s' <;> simp only [UnpackedFloat.compare, rank, Sign.apply, compare_int] <;>
        split_ifs <;> first | rfl | omega
    | zero s' =>
      cases s <;> simp only [UnpackedFloat.compare, rank, Sign.apply, compare_int] <;>
        split_ifs <;> first | rfl | omega
    | finite s' m' e' h' hm' hee hee' hn' =>
      have := magnitude_bounds h' hm' hee hee'
      have hlex := then_compare hn hn' hm hm' he hee
      -- the lexicographic comparison becomes one of magnitudes, swapped for negative signs
      cases s <;> cases s' <;> simp only [UnpackedFloat.compare, rank, Sign.apply, hlex] <;>
        simp only [compare_int] <;> split_ifs <;> first | rfl | omega

/-- The rank of a float. -/
def orderRank (x : Float32) : Int := rank x.toModel.unpack

theorem canonical (x : Float32) : Canonical x.toModel.unpack := canonical_unpack _

theorem isNaN_iff {x : Float32} : x.isNaN = true ↔ x.toModel.unpack = .notANumber := by
  show x.toModel.unpack.isNaN = true ↔ _
  cases x.toModel.unpack <;> simp [UnpackedFloat.isNaN]

theorem ne_nan_of_isNaN {x : Float32} (h : x.isNaN = false) : x.toModel.unpack ≠ .notANumber :=
  fun hn => Bool.false_ne_true (h.symm.trans (isNaN_iff.mpr hn))

theorem le_iff_compare {x y : Float32} :
    x ≤ y ↔ (x.toModel.unpack.compare y.toModel.unpack).any (·.isLE) = true := by
  show decide (x.toModel.le y.toModel = true) = true ↔ _
  simp only [decide_eq_true_eq]
  rfl

theorem compare_nan_right (a : UnpackedFloat) : a.compare .notANumber = none := by
  cases a <;> rfl

/-- Away from NaN, comparing two floats is comparing their ranks. -/
theorem compare_toModel {x y : Float32} (hx : x.isNaN = false) (hy : y.isNaN = false) :
    x.toModel.unpack.compare y.toModel.unpack = some (compare (orderRank x) (orderRank y)) :=
  compare_eq_rank (canonical x) (canonical y) (ne_nan_of_isNaN hx) (ne_nan_of_isNaN hy)

theorem le_iff_rank {x y : Float32} :
    x ≤ y ↔ x.isNaN = false ∧ y.isNaN = false ∧ orderRank x ≤ orderRank y := by
  rw [le_iff_compare]
  cases hx : x.isNaN
  · cases hy : y.isNaN
    · rw [compare_toModel hx hy, compare_int]
      split_ifs <;> simp <;> omega
    · simp [isNaN_iff.mp hy, compare_nan_right]
  · simp [isNaN_iff.mp hx, UnpackedFloat.compare]

theorem beq_iff_rank {x y : Float32} :
    (x == y) = true ↔ x.isNaN = false ∧ y.isNaN = false ∧ orderRank x = orderRank y := by
  show (x.toModel.unpack.compare y.toModel.unpack == some .eq) = true ↔ _
  cases hx : x.isNaN
  · cases hy : y.isNaN
    · rw [compare_toModel hx hy, compare_int]
      split_ifs <;> simp <;> omega
    · simp [isNaN_iff.mp hy, compare_nan_right]
  · simp [isNaN_iff.mp hx, UnpackedFloat.compare]

/-- `≤` on floats is transitive; NaN never stands on either side of it. -/
theorem float_le_trans {x y z : Float32} (hxy : x ≤ y) (hyz : y ≤ z) : x ≤ z := by
  rw [le_iff_rank] at hxy hyz ⊢
  exact ⟨hxy.1, hyz.2.1, by omega⟩

theorem float_le_of_not_le {x y : Float32} (hx : x.isNaN = false) (hy : y.isNaN = false)
    (h : ¬x ≤ y) : y ≤ x := by
  have hr : ¬orderRank x ≤ orderRank y := fun hr => h (le_iff_rank.mpr ⟨hx, hy, hr⟩)
  exact le_iff_rank.mpr ⟨hy, hx, by omega⟩

end FloatOrder
end NodeGraph
