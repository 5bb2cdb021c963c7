import NodeGraph.Op.Math

/-!
# The nearest power of two

For a positive input `n`, `MathOp.closestPow2` takes the least power of two at or above `n` and its
half; they bracket `n` (`MathOp.ceilPow2_bracket`), no power of two lies between them, and the
nearer, the upper on a tie, is nearest among all powers of two (`MathOp.nearest_of_bracket`). From
`3 * 2 ^ 29` on the nearest power is `2 ^ 31`, which does not fit, and `2 ^ 30` stands in for it
(`MathOp.nearestPow2_of_le`). The float form applies the rounding to the operand's saturating
conversion (`MathOp.closestPowerOfTwo_nearest`).
-/

namespace NodeGraph

/-- `p` is a power of two no farther from `v` than any power of two, and not smaller than any
power of two as near. -/
def IsNearestPow2 (v p : Int) : Prop :=
  (∃ k : Nat, p = 2 ^ k) ∧
    ∀ k : Nat, (v - p).natAbs ≤ (v - 2 ^ k).natAbs ∧
      ((v - 2 ^ k).natAbs = (v - p).natAbs → 2 ^ k ≤ p)

namespace MathOp

/-- The nearer to `n` of the least power of two at or above it and its half, the upper one on a
tie: what `closestPow2` computes before it fits the result into 32 bits. -/
def nearestPow2 (n : Nat) : Nat :=
  let upper := ceilPow2 n
  let lower := upper / 2
  if 0 < lower ∧ n - lower < upper - n then lower else upper

theorem closestPow2_eq (v : Int32) :
    closestPow2 v =
      if v ≤ 0 then 0
      else if nearestPow2 v.toInt.toNat < 2 ^ 31 then Int32.ofNat (nearestPow2 v.toInt.toNat)
      else Int32.ofNat (2 ^ 30) := rfl

theorem two_mul_pow_le_of_lt {i j : Nat} (h : 2 ^ i < 2 ^ j) : 2 * 2 ^ i ≤ 2 ^ j := by
  have hij : i < j := (Nat.pow_lt_pow_iff_right (by decide)).mp h
  calc 2 * 2 ^ i = 2 ^ (i + 1) := by rw [Nat.pow_succ, Nat.mul_comm]
    _ ≤ 2 ^ j := Nat.pow_le_pow_right (by decide) hij

theorem ceilPow2_bracket {n : Nat} (hn : 0 < n) :
    ∃ k, ceilPow2 n = 2 ^ k ∧ n ≤ 2 ^ k ∧ 2 ^ k < 2 * n := by
  unfold ceilPow2
  split
  · exact ⟨0, rfl, by omega, by omega⟩
  · have hlo : 2 ^ (n - 1).log2 ≤ n - 1 := Nat.log2_self_le (by omega)
    have hhi : n - 1 < 2 ^ ((n - 1).log2 + 1) := Nat.lt_log2_self
    refine ⟨_, rfl, by omega, ?_⟩
    rw [Nat.pow_succ]
    omega

/-- Let no power of two lie strictly between `lower < n ≤ upper`. Then the nearer of `lower`
(when positive) and `upper`, the upper one on a tie, is no farther from `n` than a power of two
`q`, and not smaller than `q` when as near. -/
theorem nearest_of_bracket {n lower upper q : Nat} (hlo : lower < n) (hup : n ≤ upper)
    (hq : 0 < q) (hgap : q ≤ lower ∨ upper ≤ q) :
    let p := if 0 < lower ∧ n - lower < upper - n then lower else upper
    ((n : Int) - p).natAbs ≤ ((n : Int) - q).natAbs ∧
      (((n : Int) - q).natAbs = ((n : Int) - p).natAbs → q ≤ p) := by
  -- `lower` and every `q` below it lie left of `n`, `upper` and every `q` above it right of it
  split <;> omega

theorem nearestPow2_isNearest {n : Nat} (hn : 0 < n) : IsNearestPow2 n (nearestPow2 n) := by
  obtain ⟨k, hk, hle, hlt⟩ := ceilPow2_bracket hn
  have hlo : 2 ^ k / 2 < n := by omega
  unfold nearestPow2
  simp only [hk]
  constructor
  · split
    · rename_i h
      -- a positive half of `2 ^ k` is `2 ^ (k - 1)`
      cases k with
      | zero => simp at h
      | succ k => exact ⟨k, by simp [Nat.pow_succ]⟩
    · exact ⟨k, by simp⟩
  · intro j
    have hgap : 2 ^ j ≤ 2 ^ k / 2 ∨ 2 ^ k ≤ 2 ^ j := by
      rcases Nat.lt_or_ge (2 ^ j) (2 ^ k) with h | h
      · have := two_mul_pow_le_of_lt h
        omega
      · exact Or.inr h
    exact_mod_cast nearest_of_bracket hlo hle (Nat.two_pow_pos j) hgap

/-- For a positive input that fits in 32 bits, the least power of two at or above it fits in 32
unsigned bits and its half is below the input: no step of the rounding wraps. -/
theorem ceilPow2_fits {n : Nat} (hn0 : 0 < n) (hn : n < 2 ^ 31) :
    ceilPow2 n / 2 < n ∧ n ≤ ceilPow2 n ∧ ceilPow2 n ≤ 2 ^ 31 := by
  obtain ⟨k, hk, hle, hlt⟩ := ceilPow2_bracket hn0
  rw [hk]
  refine ⟨by omega, hle, ?_⟩
  -- a power of two above `2 ^ 31` is at least `2 ^ 32`, beyond `2 * n`
  refine Nat.le_of_not_lt fun hbig => ?_
  have := two_mul_pow_le_of_lt hbig
  omega

theorem nearestPow2_lt_of_lt {n : Nat} (hn0 : 0 < n) (hn : n < 3 * 2 ^ 29) :
    nearestPow2 n < 2 ^ 31 := by
  have hfits := ceilPow2_fits hn0 (by omega)
  unfold nearestPow2
  dsimp only
  -- at `upper = 2 ^ 31` the input is nearer to `lower = 2 ^ 30`
  split <;> omega

/-- From `3 * 2 ^ 29` on the nearest power of two is `2 ^ 31`. -/
theorem nearestPow2_of_le {n : Nat} (hn : 3 * 2 ^ 29 ≤ n) (hn' : n < 2 ^ 31) :
    nearestPow2 n = 2 ^ 31 := by
  obtain ⟨hhalf, hle, hfit⟩ := ceilPow2_fits (by omega) hn'
  obtain ⟨k, hk, -, -⟩ := ceilPow2_bracket (n := n) (by omega)
  -- `upper` is a power of two above `2 ^ 30`, so it is `2 ^ 31`
  have hupper : ceilPow2 n = 2 ^ 31 := by
    have hbig : 2 ^ 30 < 2 ^ k := by omega
    have := two_mul_pow_le_of_lt hbig
    omega
  unfold nearestPow2
  dsimp only
  rw [hupper]
  split <;> omega

theorem not_le_zero_of_toInt_pos {v : Int32} (hv : 0 < v.toInt) : ¬ v ≤ 0 := by
  rw [Int32.le_iff_toInt_le, Int32.toInt_zero]
  omega

theorem toInt_closestPow2_of_nonpos {v : Int32} (hv : v.toInt ≤ 0) :
    (closestPow2 v).toInt = 0 := by
  have hle : v ≤ 0 := by
    rw [Int32.le_iff_toInt_le, Int32.toInt_zero]
    exact hv
  rw [closestPow2_eq, if_pos hle]
  rfl

theorem toInt_closestPow2_of_lt {v : Int32} (hv : 0 < v.toInt) (hv' : v.toInt < 3 * 2 ^ 29) :
    (closestPow2 v).toInt = nearestPow2 v.toInt.toNat := by
  have hfits := nearestPow2_lt_of_lt (n := v.toInt.toNat) (by omega) (by omega)
  rw [closestPow2_eq, if_neg (not_le_zero_of_toInt_pos hv), if_pos hfits]
  exact Int32.toInt_ofNat_of_lt hfits

theorem toInt_closestPow2_of_le {v : Int32} (hv : 3 * 2 ^ 29 ≤ v.toInt) :
    (closestPow2 v).toInt = 2 ^ 30 := by
  have hnear := nearestPow2_of_le (n := v.toInt.toNat) (by omega) (by have := v.toInt_lt; omega)
  rw [closestPow2_eq, if_neg (not_le_zero_of_toInt_pos (by omega)), hnear, if_neg (by decide)]
  exact_mod_cast Int32.toInt_ofNat_of_lt (n := 2 ^ 30) (by decide)

/-- The rounding to a power of two, exactly: zero up to zero, then the nearest power of two, the
larger one on a tie, and `2 ^ 30` where that would be `2 ^ 31`, with every intermediate value in
range. The integer math operation rounds its operand so, the float one its saturating
conversion. -/
theorem closestPowerOfTwo_nearest (v b : Int32) (x y : Float32) :
    (0 < v.toInt → ceilPow2 v.toInt.toNat / 2 < v.toInt.toNat ∧
      v.toInt.toNat ≤ ceilPow2 v.toInt.toNat ∧ ceilPow2 v.toInt.toNat ≤ 2 ^ 31) ∧
    (v.toInt ≤ 0 → (closestPow2 v).toInt = 0) ∧
    (0 < v.toInt → v.toInt < 3 * 2 ^ 29 → IsNearestPow2 v.toInt (closestPow2 v).toInt) ∧
    (3 * 2 ^ 29 ≤ v.toInt → (closestPow2 v).toInt = 2 ^ 30) ∧
    closestPowerOfTwo.applyInt v b = .ok (closestPow2 v) ∧
    closestPowerOfTwo.apply x y = .ok (Number.ofInt (closestPow2 (Number.toInt x))) := by
  refine ⟨fun hv => ceilPow2_fits (by omega) (by have := v.toInt_lt; omega),
    toInt_closestPow2_of_nonpos, fun hv hv' => ?_, toInt_closestPow2_of_le, rfl, rfl⟩
  rw [toInt_closestPow2_of_lt hv hv']
  have hcast : ((v.toInt.toNat : Nat) : Int) = v.toInt := Int.toNat_of_nonneg (by omega)
  simpa only [hcast] using nearestPow2_isNearest (n := v.toInt.toNat) (by omega)

example : closestPow2 5 = 4 ∧ closestPow2 6 = 8 ∧ closestPow2 2147483647 = 1073741824 := by
  decide

end MathOp

end NodeGraph
