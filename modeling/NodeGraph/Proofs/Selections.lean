import NodeGraph.Op.Swizzle

/-!
# Parsing component selections

A selection is read from its text lowercased: the position letters `xyzw` and the colour letters
`rgba` name components, other characters are skipped, and `Swizzle.parse` keeps the first four
letters, each brought down to the input's last component (`Swizzle.parse_eq`). So a selection makes
one to four picks, each within the input's components; it is a colour exactly when colour letters
are a strict majority; and its output type follows its length (`Swizzle.parse_spec`).
-/

namespace NodeGraph

namespace Swizzle

/-- The position letters, in component order. -/
def positionLetters : List Char := ['x', 'y', 'z', 'w']

/-- The colour letters, in component order. -/
def colorLetters : List Char := ['r', 'g', 'b', 'a']

/-- The letters that name a component. -/
def selectionLetters : List Char := positionLetters ++ colorLetters

/-- The component a letter names: its place among the colour letters or the position letters. -/
def component (c : Char) : Nat :=
  if c ∈ colorLetters then colorLetters.idxOf c else positionLetters.idxOf c

/-- The letters a selection keeps: the first four component letters of its lowercased text. -/
def keptLetters (s : String) : List Char :=
  ((s.toList.map Char.toLower).filter (· ∈ selectionLetters)).take 4

/-- The letter table: a character names a component exactly when lowercased it is a component
letter, and then the component of that letter, a colour one when it is a colour letter. -/
theorem letter_eq (c : Char) :
    letter c = if c.toLower ∈ selectionLetters then
      some (component c.toLower, decide (c.toLower ∈ colorLetters)) else none := by
  unfold letter
  generalize c.toLower = d
  split
  case h_9 => simp_all [selectionLetters, positionLetters, colorLetters]
  -- each row of the table reads back its own letter
  all_goals decide

theorem filterMap_letter (cs : List Char) :
    cs.filterMap letter = ((cs.map Char.toLower).filter (· ∈ selectionLetters)).map
      fun c => (component c, decide (c ∈ colorLetters)) := by
  induction cs with
  | nil => rfl
  | cons c cs ih =>
    rw [List.filterMap_cons, letter_eq, List.map_cons, List.filter_cons]
    by_cases h : c.toLower ∈ selectionLetters <;> simp [h, ih]

theorem parse_eq (s : String) (count : Nat) :
    parse s count =
      if keptLetters s = [] then ⟨[0], false⟩
      else ⟨(keptLetters s).map fun c => min (component c) (count - 1),
        decide ((keptLetters s).length <
          2 * ((keptLetters s).filter (· ∈ colorLetters)).length)⟩ := by
  unfold parse keptLetters
  rw [filterMap_letter, ← List.map_take]
  generalize ((s.toList.map Char.toLower).filter (· ∈ selectionLetters)).take 4 = kept
  dsimp only
  rw [List.filter_map, List.length_map, List.length_map]
  cases kept with
  | nil => rfl
  | cons c cs => simp [Function.comp_def]

theorem component_lt_four {c : Char} (h : c ∈ selectionLetters) : component c < 4 := by
  unfold component
  split
  · exact List.idxOf_lt_length_of_mem ‹_›
  · have hpos : c ∈ positionLetters := by
      simp only [selectionLetters, List.mem_append] at h
      exact h.resolve_right ‹_›
    exact List.idxOf_lt_length_of_mem hpos

theorem mem_selectionLetters_of_kept {s : String} {c : Char} (h : c ∈ keptLetters s) :
    c ∈ selectionLetters := by
  unfold keptLetters at h
  exact of_decide_eq_true (List.mem_filter.mp (List.mem_of_mem_take h)).2

theorem picks_parse (s : String) (count : Nat) :
    (parse s count).picks = if keptLetters s = [] then [0]
      else (keptLetters s).map fun c => min (component c) (count - 1) := by
  rw [parse_eq]
  split <;> rfl

theorem color_parse (s : String) (count : Nat) :
    (parse s count).color = true ↔
      (keptLetters s).length < 2 * ((keptLetters s).filter (· ∈ colorLetters)).length := by
  rw [parse_eq]
  split
  · rename_i hk
    simp [hk]
  · simp

theorem length_picks_parse_le (s : String) (count : Nat) : (parse s count).picks.length ≤ 4 := by
  rw [picks_parse]
  split
  · simp
  · rw [List.length_map]
    exact List.length_take_le _ _

theorem pick_bounds {s : String} {count p : Nat} (hp : p ∈ (parse s count).picks) :
    p < 4 ∧ p ≤ count - 1 := by
  rw [picks_parse] at hp
  split at hp
  · simp only [List.mem_singleton] at hp
    omega
  · obtain ⟨c, hc, rfl⟩ := List.mem_map.mp hp
    have := component_lt_four (mem_selectionLetters_of_kept hc)
    omega

theorem outputType_cases (sel : Swizzle) (hpos : 1 ≤ sel.picks.length)
    (hle : sel.picks.length ≤ 4) :
    sel.picks.length = 1 ∧ sel.outputType = .float ∨
      sel.picks.length = 2 ∧ sel.outputType = .vector2 ∨
      sel.picks.length = 3 ∧ sel.outputType = .vector3 ∨
      sel.picks.length = 4 ∧ sel.outputType = if sel.color then .color else .vector4 := by
  have hlen : sel.picks.length = 1 ∨ sel.picks.length = 2 ∨ sel.picks.length = 3 ∨
      sel.picks.length = 4 := by omega
  unfold outputType
  rcases hlen with h | h | h | h <;> simp [h]

/-- A selection of an input with `count` components: its picks are the kept letters' components
brought down to the last component, or component `0` when no letter is kept; one to four of them,
each below four and at most the last component; a colour selection exactly when colour letters are
a strict majority of the kept letters; and the output type by the number of picks. -/
theorem parse_spec (s : String) (count : Nat) :
    (parse s count).picks = (if keptLetters s = [] then [0]
      else (keptLetters s).map fun c => min (component c) (count - 1)) ∧
    ((parse s count).color = true ↔
      (keptLetters s).length < 2 * ((keptLetters s).filter (· ∈ colorLetters)).length) ∧
    (1 ≤ (parse s count).picks.length ∧ (parse s count).picks.length ≤ 4) ∧
    (∀ p ∈ (parse s count).picks, p < 4 ∧ p ≤ count - 1) ∧
    ((parse s count).picks.length = 1 ∧ (parse s count).outputType = .float ∨
      (parse s count).picks.length = 2 ∧ (parse s count).outputType = .vector2 ∨
      (parse s count).picks.length = 3 ∧ (parse s count).outputType = .vector3 ∨
      (parse s count).picks.length = 4 ∧
        (parse s count).outputType = if (parse s count).color then .color else .vector4) := by
  have hpos := picks_length_pos s count
  have hle := length_picks_parse_le s count
  exact ⟨picks_parse s count, color_parse s count, ⟨hpos, hle⟩, fun _ hp => pick_bounds hp,
    outputType_cases _ hpos hle⟩

example : (parse "ZyX" 3).picks = [2, 1, 0] ∧ (parse "w" 2).picks = [1] ∧
    (parse "q!" 4).picks = [0] ∧ (parse "rgbx" 4).outputType = .color ∧
    (parse "rgxy" 4).outputType = .vector4 := by
  decide

end Swizzle

end NodeGraph
