import NodeGraph.Proofs.FloatOrder
import NodeGraph.Curve.Basic
import Mathlib.Tactic.Set

/-!
# Curve keys stay sorted

`Curve.addKey` inserts a key at the partition point of "time at most the new time", which the
halving search finds exactly when the keys passing the test come first
(`Search.partitionPoint_append`); in keys sorted by time they do. The invariant of a run of
`addKey` is `Curve.SortsStably`, kept by each step while times are numbers, so keys are stored as a
stable sort by time (`Curve.ofKeys_sorts_stably`). A NaN time is neither at most nor at least any
time, and breaks the order (`Curve.ofKeys_nan_time_unsorted`).
-/

namespace NodeGraph

namespace Search

/-- On test results that hold exactly below `m`, the halving keeps `m` inside its candidate range,
so the last element it looks at places `m` exactly. -/
theorem halve_spec (bs : Array Bool) (m : Nat)
    (hbs : ∀ j, j < bs.size → (bs.getD j false = true ↔ j < m)) (size base : Nat) (h : 0 < size)
    (hsize : base + size ≤ bs.size) (hm : m ≤ base + size) (hbase : base < m ∨ base = 0) :
    (if bs.getD (halve bs base size) false then halve bs base size + 1 else halve bs base size) =
      m := by
  induction size using Nat.strongRecOn generalizing base with
  | _ size ih =>
    rw [halve]
    split
    · dsimp only
      have hlt : size - size / 2 < size := by omega
      have hmid := hbs (base + size / 2) (by omega)
      split
      · rename_i htrue
        exact ih (size - size / 2) hlt (base + size / 2) (by omega) (by omega) (by omega)
          (.inl (hmid.mp htrue))
      · rename_i hfalse
        have : ¬base + size / 2 < m := fun hlt' => hfalse (hmid.mpr hlt')
        exact ih (size - size / 2) hlt base (by omega) (by omega) (by omega) hbase
    · -- one candidate left: it passes exactly when `m` is just after it
      have hb := hbs base (by omega)
      split
      · rename_i htrue
        have := hb.mp htrue
        omega
      · rename_i hfalse
        have : ¬base < m := fun hlt' => hfalse (hb.mpr hlt')
        omega

/-- The partition point of a list whose elements pass the test up to some place and fail it from
there on is that place. -/
theorem partitionPoint_append {α : Type} (p : α → Bool) (xs ys : List α)
    (hx : ∀ x ∈ xs, p x = true) (hy : ∀ y ∈ ys, p y = false) :
    partitionPoint p (xs ++ ys) = xs.length := by
  unfold partitionPoint
  dsimp only
  have hsz : ((xs ++ ys).map p).toArray.size = xs.length + ys.length := by simp
  have hbs : ∀ j, j < ((xs ++ ys).map p).toArray.size →
      (((xs ++ ys).map p).toArray.getD j false = true ↔ j < xs.length) := by
    intro j hj
    rw [hsz] at hj
    by_cases hjx : j < xs.length
    · simp only [Array.getD_eq_getD_getElem?, List.getElem?_toArray, List.map_append, hjx,
        iff_true]
      rw [List.getElem?_append_left (by simpa using hjx), List.getElem?_map,
        List.getElem?_eq_getElem hjx]
      simp [hx _ (List.getElem_mem hjx)]
    · have hjy : j - xs.length < ys.length := by omega
      simp only [Array.getD_eq_getD_getElem?, List.getElem?_toArray, List.map_append, hjx,
        iff_false]
      rw [List.getElem?_append_right (by simpa using Nat.le_of_not_lt hjx), List.length_map,
        List.getElem?_map, List.getElem?_eq_getElem hjy]
      simp [hy _ (List.getElem_mem hjy)]
  split
  · omega
  · exact halve_spec _ _ hbs _ 0 (by omega) (by omega) (by omega) (by omega)

end Search

namespace Curve

open FloatOrder

theorem addKey_keys_of_split {c : Curve} {k : CurveKey} {xs ys : List CurveKey}
    (h : c.keys = xs ++ ys) (hx : ∀ x ∈ xs, x.time ≤ k.time) (hy : ∀ y ∈ ys, ¬y.time ≤ k.time) :
    (c.addKey k).keys = xs ++ k :: ys := by
  have hp := Search.partitionPoint_append (fun x : CurveKey => decide (x.time ≤ k.time)) xs ys
    (fun x hmem => decide_eq_true (hx x hmem)) (fun y hmem => decide_eq_false (hy y hmem))
  simp only [addKey, h, hp, List.take_left', List.drop_left']

theorem not_le_of_mem_dropWhile {l : List CurveKey} {k y : CurveKey}
    (hs : l.Pairwise fun a b => a.time ≤ b.time)
    (hy : y ∈ l.dropWhile fun x => decide (x.time ≤ k.time)) : ¬y.time ≤ k.time := by
  induction l with
  | nil => simp at hy
  | cons x rest ih =>
    rw [List.pairwise_cons] at hs
    by_cases hx : x.time ≤ k.time
    · rw [List.dropWhile_cons_of_pos (by simpa using hx)] at hy
      exact ih hs.2 hy
    · rw [List.dropWhile_cons_of_neg (by simpa using hx)] at hy
      rcases List.mem_cons.mp hy with rfl | hmem
      · exact hx
      · -- a later key no later than `k` would put `x` no later than `k` too
        exact fun hyk => hx (float_le_trans (hs.1 y hmem) hyk)

theorem le_of_mem_takeWhile {l : List CurveKey} {k x : CurveKey}
    (hx : x ∈ l.takeWhile fun y => decide (y.time ≤ k.time)) : x.time ≤ k.time := by
  simpa using List.all_eq_true.mp List.all_takeWhile x hx

theorem addKey_keys_of_sorted {c : Curve} (k : CurveKey)
    (hs : c.keys.Pairwise fun a b => a.time ≤ b.time) :
    (c.addKey k).keys = c.keys.takeWhile (fun x => decide (x.time ≤ k.time)) ++
      k :: c.keys.dropWhile (fun x => decide (x.time ≤ k.time)) :=
  addKey_keys_of_split List.takeWhile_append_dropWhile.symm (fun _ hx => le_of_mem_takeWhile hx)
    (fun _ hy => not_le_of_mem_dropWhile hs hy)

theorem foldl_addKey_of_sorted (rest : List CurveKey) :
    ∀ (c : Curve) (xs : List CurveKey), c.keys = xs →
      (xs ++ rest).Pairwise (fun a b => a.time ≤ b.time) →
      (rest.foldl addKey c).keys = xs ++ rest := by
  induction rest with
  | nil => simp
  | cons k rest ih =>
    intro c xs hc hs
    have hk : ∀ x ∈ xs, x.time ≤ k.time := fun x hx =>
      (List.pairwise_append.mp hs).2.2 x hx k List.mem_cons_self
    have hadd : (c.addKey k).keys = xs ++ [k] :=
      addKey_keys_of_split (show c.keys = xs ++ [] by simp [hc]) hk (by simp)
    rw [List.foldl_cons, ih _ _ hadd (by simpa using hs)]
    simp

theorem ofKeys_keys_of_sorted (pre post : WrapMode) {ks : List CurveKey}
    (hs : ks.Pairwise fun a b => a.time ≤ b.time) : (ofKeys pre post ks).keys = ks :=
  foldl_addKey_of_sorted ks _ [] rfl hs

/-- `keys` holds the keys `added`, sorted stably by time: the same keys, in order of time, and
the keys of each time in the order they were added. -/
structure SortsStably (added keys : List CurveKey) : Prop where
  perm : keys.Perm added
  sorted : keys.Pairwise fun a b => a.time ≤ b.time
  stable : ∀ t : Float32, keys.filter (·.time == t) = added.filter (·.time == t)

section Insert

variable {xs ys : List CurveKey} {k : CurveKey}

theorem pairwise_insert (hs : (xs ++ ys).Pairwise fun a b => a.time ≤ b.time)
    (hx : ∀ x ∈ xs, x.time ≤ k.time) (hy : ∀ y ∈ ys, ¬y.time ≤ k.time)
    (hn : ∀ y ∈ ys, y.time.isNaN = false) (hk : k.time.isNaN = false) :
    (xs ++ k :: ys).Pairwise fun a b => a.time ≤ b.time := by
  rw [List.pairwise_append] at hs
  refine List.pairwise_append.mpr ⟨hs.1, List.pairwise_cons.mpr ⟨?_, hs.2.1⟩, ?_⟩
  · -- away from NaN, a key not at most `k` is at least `k`
    exact fun y hy' => float_le_of_not_le (hn y hy') hk (hy y hy')
  · intro x hx' y hy'
    rcases List.mem_cons.mp hy' with rfl | hy'
    · exact hx x hx'
    · exact hs.2.2 x hx' y hy'

theorem filter_insert (t : Float32) (hy : ∀ y ∈ ys, ¬y.time ≤ k.time) :
    (xs ++ k :: ys).filter (·.time == t) =
      (xs ++ ys).filter (·.time == t) ++ [k].filter (·.time == t) := by
  rw [List.filter_append, List.filter_cons, List.filter_append]
  by_cases hkt : (k.time == t) = true
  · -- no later key has the time of `k`
    have hnone : ys.filter (·.time == t) = [] := by
      refine List.filter_eq_nil_iff.mpr fun y hy' hyt => hy y hy' ?_
      obtain ⟨hk, -, hr⟩ := beq_iff_rank.mp hkt
      obtain ⟨hyn, -, hr'⟩ := beq_iff_rank.mp hyt
      exact le_iff_rank.mpr ⟨hyn, hk, by omega⟩
    simp [hkt, hnone]
  · simp [hkt]

end Insert

/-- One added key keeps the keys sorted stably: it lands after every key of its own time. -/
theorem SortsStably.addKey {added : List CurveKey} {c : Curve} {k : CurveKey}
    (h : SortsStably added c.keys) (hn : ∀ x ∈ added, x.time.isNaN = false)
    (hk : k.time.isNaN = false) : SortsStably (added ++ [k]) (c.addKey k).keys := by
  have hsplit := addKey_keys_of_sorted k h.sorted
  set p := fun x : CurveKey => decide (x.time ≤ k.time)
  have hkeys : c.keys = c.keys.takeWhile p ++ c.keys.dropWhile p :=
    List.takeWhile_append_dropWhile.symm
  have hlater : ∀ y ∈ c.keys.dropWhile p, ¬y.time ≤ k.time := fun _ hy =>
    not_le_of_mem_dropWhile h.sorted hy
  have hdrop : ∀ y ∈ c.keys.dropWhile p, y.time.isNaN = false := fun y hy =>
    hn y (h.perm.subset ((List.dropWhile_sublist p).subset hy))
  rw [hsplit]
  refine ⟨?_, pairwise_insert (by rw [← hkeys]; exact h.sorted) (fun _ hx => le_of_mem_takeWhile hx)
    hlater hdrop hk, fun t => ?_⟩
  · calc List.Perm (c.keys.takeWhile p ++ k :: c.keys.dropWhile p)
            (k :: (c.keys.takeWhile p ++ c.keys.dropWhile p)) := List.perm_middle
        _ = k :: c.keys := by rw [← hkeys]
        _ = [k] ++ c.keys := rfl
        List.Perm _ (c.keys ++ [k]) := List.perm_append_comm
        List.Perm _ (added ++ [k]) := h.perm.append_right _
  · rw [filter_insert t hlater, ← hkeys, List.filter_append, h.stable t]

/-- Adding keys one after another sorts them stably, from any stably sorted start. -/
theorem sortsStably_foldl (rest : List CurveKey) :
    ∀ (c : Curve) (added : List CurveKey), SortsStably added c.keys →
      (∀ x ∈ added ++ rest, x.time.isNaN = false) →
      SortsStably (added ++ rest) (rest.foldl addKey c).keys := by
  induction rest with
  | nil => simpa using fun _ _ h _ => h
  | cons k rest ih =>
    intro c added h hn
    have hstep := h.addKey (k := k) (fun x hx => hn x (by simp [hx])) (hn k (by simp))
    simpa using ih (c.addKey k) (added ++ [k]) hstep (by simpa using hn)

theorem sortsStably_ofKeys (pre post : WrapMode) {ks : List CurveKey}
    (h : ∀ k ∈ ks, k.time.isNaN = false) : SortsStably ks (ofKeys pre post ks).keys :=
  sortsStably_foldl ks { pre := pre, post := post } [] ⟨.nil, .nil, fun _ => rfl⟩
    (by simpa using h)

/-- Keys whose times are numbers are stored as a stable sort by time, whatever the order they are
added in, and adding the stored keys again in their order gives the same keys. -/
theorem ofKeys_sorts_stably (pre post : WrapMode) (ks : List CurveKey)
    (h : ∀ k ∈ ks, k.time.isNaN = false) :
    (ofKeys pre post ks).keys.Perm ks ∧
      (ofKeys pre post ks).keys.Pairwise (fun a b => a.time ≤ b.time) ∧
      (∀ t : Float32, (ofKeys pre post ks).keys.filter (·.time == t) = ks.filter (·.time == t)) ∧
      ∀ pre' post' : WrapMode,
        (ofKeys pre' post' (ofKeys pre post ks).keys).keys = (ofKeys pre post ks).keys := by
  have hs := sortsStably_ofKeys pre post h
  exact ⟨hs.perm, hs.sorted, hs.stable,
    fun pre' post' => ofKeys_keys_of_sorted pre' post' hs.sorted⟩

theorem ofKeys_sorts_three_keys :
    (∀ k ∈ [({ time := 1, value := 0 } : CurveKey), { time := 0, value := 1 },
        { time := 1, value := 2 }], k.time.isNaN = false) ∧
      (ofKeys .loop .once [{ time := 1, value := 0 }, { time := 0, value := 1 },
          { time := 1, value := 2 }]).keys.Perm
        [{ time := 1, value := 0 }, { time := 0, value := 1 }, { time := 1, value := 2 }] ∧
      (ofKeys .loop .once [{ time := 1, value := 0 }, { time := 0, value := 1 },
          { time := 1, value := 2 }]).keys.Pairwise (fun a b => a.time ≤ b.time) ∧
      (∀ t : Float32, (ofKeys .loop .once [{ time := 1, value := 0 }, { time := 0, value := 1 },
          { time := 1, value := 2 }]).keys.filter (·.time == t) =
        [({ time := 1, value := 0 } : CurveKey), { time := 0, value := 1 },
          { time := 1, value := 2 }].filter (·.time == t)) ∧
      ∀ pre' post' : WrapMode,
        (ofKeys pre' post' (ofKeys .loop .once [{ time := 1, value := 0 },
            { time := 0, value := 1 }, { time := 1, value := 2 }]).keys).keys =
          (ofKeys .loop .once [{ time := 1, value := 0 }, { time := 0, value := 1 },
            { time := 1, value := 2 }]).keys := by
  have h : ∀ k ∈ [({ time := 1, value := 0 } : CurveKey), { time := 0, value := 1 },
      { time := 1, value := 2 }], k.time.isNaN = false := by decide +kernel
  exact ⟨h, ofKeys_sorts_stably .loop .once _ h⟩

/-- Both zeros are one time: keys at `0` and `-0` stay in the order they were added. -/
example : (ofKeys .clampDefault .clampDefault [{ time := 1, value := 0 }, { time := 0, value := 1 },
    { time := -0, value := 2 }]).keys.map (·.value) = [1, 2, 0] := by
  decide +kernel

/-- A NaN time breaks the order: NaN is neither at most nor at least any time, so it is put
before the keys already there, and later keys are placed around it out of order. -/
theorem ofKeys_nan_time_unsorted :
    (ofKeys .clampDefault .clampDefault [{ time := 1, value := 0 },
        { time := Number.nan, value := 1 }, { time := 0.5, value := 2 },
        { time := 2, value := 3 }]).keys.map (·.value) = [2, 3, 1, 0] := by
  decide +kernel

end Curve

end NodeGraph
