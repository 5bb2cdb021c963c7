import NodeGraph.Value.Basic

/-!
# Component selections

A selection such as `zyx` or `rgba` picks up to four components of a value. Letters are read
without regard to ASCII case: `x`/`r` is component 0, `y`/`g` 1, `z`/`b` 2, `w`/`a` 3; other
characters are skipped, and picks past the input's last component stop at it. An empty selection
picks component 0. The output is a float, a Vector2 or Vector3 by the number of picks, and for
four picks a colour when colour letters are a strict majority, else a Vector4.
-/

namespace NodeGraph

/-- A parsed component selection. -/
structure Swizzle where
  picks : List Nat
  color : Bool
deriving Repr, DecidableEq

namespace Swizzle

/-- The component a letter names, and whether it is a colour letter. -/
def letter (c : Char) : Option (Nat × Bool) :=
  match c.toLower with
  | 'x' => some (0, false)
  | 'y' => some (1, false)
  | 'z' => some (2, false)
  | 'w' => some (3, false)
  | 'r' => some (0, true)
  | 'g' => some (1, true)
  | 'b' => some (2, true)
  | 'a' => some (3, true)
  | _ => none

/-- Parses a selection for an input with `count` components. -/
def parse (components : String) (count : Nat) : Swizzle :=
  let top := count - 1
  let kept := (components.toList.filterMap letter).take 4
  if kept.isEmpty then ⟨[0], false⟩
  else
    let colorLetters := (kept.filter (·.2)).length
    ⟨kept.map (fun p => min p.1 top), kept.length < 2 * colorLetters⟩

/-- The output type of a selection. -/
def outputType (s : Swizzle) : ValueType :=
  match s.picks.length with
  | 1 => .float
  | 2 => .vector2
  | 3 => .vector3
  | _ => if s.color then .color else .vector4

/-- The output shape of a selection. -/
def shape (s : Swizzle) : Shape :=
  match s.picks.length with
  | 1 => .float
  | 2 => .vector2
  | 3 => .vector3
  | _ => if s.color then .color else .vector4

/-- The selected components of some lanes, zero-padded. -/
def apply (s : Swizzle) (src : Lanes) : Lanes := Vec4.ofList (s.picks.map src.get)

theorem picks_length_pos (c : String) (n : Nat) : 0 < (parse c n).picks.length := by
  simp only [parse]
  split
  · simp
  · rename_i h
    simp only [List.length_map]
    exact List.length_pos_iff.mpr (by simpa using h)

end Swizzle

end NodeGraph
