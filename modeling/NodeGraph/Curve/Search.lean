/-!
# Partition points

`partitionPoint p xs` is the first position whose element fails `p`, for a list on which `p`
holds on a prefix and fails on the rest. It is found by halving: the candidate range keeps its
lower end `base` and shrinks by half its size each step, and the last element looked at decides
whether the point is at `base` or just after it. On lists where `p` is not a prefix property the
answer is still a position between `0` and the length, fixed by this halving order.
-/

namespace NodeGraph
namespace Search

/-- The halving steps over the test results `bs`: `base` is the lower end of a candidate range
of `size` elements. -/
def halve (bs : Array Bool) (base size : Nat) : Nat :=
  if h : 1 < size then
    let half := size / 2
    let mid := base + half
    let base := if bs.getD mid false then mid else base
    have : size - half < size := by omega
    halve bs base (size - half)
  else base
termination_by size
decreasing_by exact this

/-- The partition point of a predicate in a list. -/
def partitionPoint {α : Type} (p : α → Bool) (xs : List α) : Nat :=
  let bs := (xs.map p).toArray
  if bs.size = 0 then 0
  else
    let base := halve bs 0 bs.size
    if bs.getD base false then base + 1 else base

theorem halve_le (bs : Array Bool) (base size : Nat) (h : 0 < size) :
    halve bs base size ≤ base + size - 1 := by
  induction size using Nat.strongRecOn generalizing base with
  | _ size ih =>
    rw [halve]
    split
    · dsimp only
      have hlt : size - size / 2 < size := by omega
      split
      · have := ih (size - size / 2) hlt (base + size / 2) (by omega)
        omega
      · have := ih (size - size / 2) hlt base (by omega)
        omega
    · omega

/-- The partition point lies between zero and the length. -/
theorem partitionPoint_le {α : Type} (p : α → Bool) (xs : List α) :
    partitionPoint p xs ≤ xs.length := by
  unfold partitionPoint
  dsimp only
  have hsz : (List.map p xs).toArray.size = xs.length := by simp
  split
  · omega
  · rename_i h0
    have := halve_le (List.map p xs).toArray 0 (List.map p xs).toArray.size (by omega)
    split <;> omega

end Search
end NodeGraph
