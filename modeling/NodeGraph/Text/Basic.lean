/-!
# Characters and splitting

Text in the graph format is handled as lists of characters. This module holds the blank class
used when literals are trimmed (the Unicode `White_Space` property, of which ASCII space, tab and
the line breaks are a part), trimming, and splitting at a separator character together with its
inverse, joining.

The main statement is `splitOn_joinWith`: joining pieces that contain no separator and splitting
the result again gives the pieces back.
-/

namespace NodeGraph
namespace Text

/-- Characters with the Unicode `White_Space` property. -/
def isBlank (c : Char) : Bool :=
  let n := c.toNat
  (0x09 ≤ n && n ≤ 0x0D) || n == 0x20 || n == 0x85 || n == 0xA0 || n == 0x1680 ||
    (0x2000 ≤ n && n ≤ 0x200A) || n == 0x2028 || n == 0x2029 || n == 0x202F ||
    n == 0x205F || n == 0x3000

/-- The characters without blanks at either end. -/
def trim (cs : List Char) : List Char :=
  ((cs.dropWhile isBlank).reverse.dropWhile isBlank).reverse

/-- Splits at every occurrence of `sep`; there is always at least one piece. -/
def splitOn (sep : Char) : List Char → List (List Char)
  | [] => [[]]
  | c :: rest =>
    if c = sep then [] :: splitOn sep rest
    else match splitOn sep rest with
      | [] => [[c]]
      | p :: ps => (c :: p) :: ps

/-- Joins pieces with a separator between each two. -/
def joinWith (sep : Char) : List (List Char) → List Char
  | [] => []
  | [p] => p
  | p :: ps => p ++ sep :: joinWith sep ps

/-- Splitting a piece without separators followed by a separator and more text. -/
theorem splitOn_append_sep (sep : Char) (p rest : List Char) (hp : sep ∉ p) :
    splitOn sep (p ++ sep :: rest) = p :: splitOn sep rest := by
  induction p with
  | nil => simp [splitOn]
  | cons c cs ih =>
    have hc : c ≠ sep := fun h => hp (h ▸ List.mem_cons_self)
    have hcs : sep ∉ cs := fun h => hp (List.mem_cons_of_mem _ h)
    simp [splitOn, hc, ih hcs]

/-- A piece without separators splits into itself. -/
theorem splitOn_of_not_mem (sep : Char) (p : List Char) (hp : sep ∉ p) :
    splitOn sep p = [p] := by
  induction p with
  | nil => simp [splitOn]
  | cons c cs ih =>
    have hc : c ≠ sep := fun h => hp (h ▸ List.mem_cons_self)
    have hcs : sep ∉ cs := fun h => hp (List.mem_cons_of_mem _ h)
    simp [splitOn, hc, ih hcs]

/-- Joining non-empty lists of separator-free pieces and splitting again gives them back. -/
theorem splitOn_joinWith (sep : Char) (ps : List (List Char)) (hne : ps ≠ [])
    (h : ∀ p ∈ ps, sep ∉ p) : splitOn sep (joinWith sep ps) = ps := by
  induction ps with
  | nil => exact absurd rfl hne
  | cons p rest ih =>
    cases rest with
    | nil => simp [joinWith, splitOn_of_not_mem sep p (h p List.mem_cons_self)]
    | cons q qs =>
      simp only [joinWith]
      rw [splitOn_append_sep sep p _ (h p List.mem_cons_self)]
      rw [ih (by simp) (fun x hx => h x (List.mem_cons_of_mem _ hx))]

/-- Splits a string at a separator character. -/
def splitString (sep : Char) (s : String) : List String :=
  (splitOn sep s.toList).map String.ofList

/-- Joins strings with a separator character between each two. -/
def joinStrings (sep : Char) (ps : List String) : String :=
  String.ofList (joinWith sep (ps.map String.toList))

/-- The string without blanks at either end. -/
def trimString (s : String) : String := String.ofList (trim s.toList)

/-- Whether a code point lies in one of a list of inclusive ranges. -/
def inRanges (rs : List (Nat × Nat)) (n : Nat) : Bool :=
  rs.any fun r => r.1 ≤ n && n ≤ r.2

end Text
end NodeGraph
