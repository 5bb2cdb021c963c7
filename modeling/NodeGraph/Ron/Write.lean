import NodeGraph.Decimal.Layout
import NodeGraph.Binary.Integral
import NodeGraph.Error

/-!
# Writing RON

Values are written in the pretty RON layout with struct names: a struct as its name, `(`, one
field per line indented by four spaces per level with a comma after each, and `)` on a line of
its own; a sequence likewise between `[` and `]`, or `[]` when empty; tuples and options on one
line (`Vec2(1.0, 2.0)`, `Some(...)`). Floats are written in their shortest decimal form, with
`.0` after whole numbers so that they read back as floats.
-/

namespace NodeGraph

namespace Ron

/-- A value to write. -/
inductive Doc where
  | int (i : Int)
  /-- a float; a NaN is written negative when `nanNegative` says so, since binary32 values do not
  keep the sign of a NaN -/
  | float (x : Float32) (nanNegative : Bool := false)
  | bool (b : Bool)
  | str (s : String)
  /-- a unit variant or `None` -/
  | word (name : String)
  | some (v : Doc)
  /-- a struct, or a struct variant, with named fields -/
  | record (name : String) (fields : List (String × Doc))
  /-- a tuple; the name may be empty -/
  | tuple (name : String) (items : List Doc)
  | seq (items : List Doc)
deriving Inhabited

/-- A float as RON writes it: shortest decimal, `.0` after whole numbers, and `-NaN` for a NaN
whose sign is negative. -/
def floatText (x : Float32) (nanNegative : Bool) : String :=
  let whole := !x.isNaN && !x.isInf && Binary.floor32 x == x
  let sign := if x.isNaN && nanNegative then "-" else ""
  sign ++ Decimal.plain32 x ++ (if whole then ".0" else "")

/-- A string between double quotes, with escapes. -/
def stringText (s : String) : String :=
  String.ofList ('"' :: (s.toList.flatMap fun c => if c = '\'' then ['\\', '\''] else escapeChar c) ++ ['"'])

/-- The indentation of a nesting level. -/
def indent (depth : Nat) : String := String.join (List.replicate depth "    ")

mutual

/-- The text of a value at a nesting level. -/
def Doc.render (depth : Nat) : Doc → String
  | .int i => toString i
  | .float x n => floatText x n
  | .bool b => if b then "true" else "false"
  | .str s => stringText s
  | .word n => n
  | .some v => "Some(" ++ v.render depth ++ ")"
  | .record n [] => n ++ "()"
  | .record n fs => n ++ "(\n" ++ renderFields (depth + 1) fs ++ indent depth ++ ")"
  | .tuple n items => n ++ "(" ++ renderTuple depth items ++ ")"
  | .seq [] => "[]"
  | .seq items => "[\n" ++ renderItems (depth + 1) items ++ indent depth ++ "]"

/-- Fields, one per line. -/
def renderFields (depth : Nat) : List (String × Doc) → String
  | [] => ""
  | (k, v) :: rest => indent depth ++ k ++ ": " ++ v.render depth ++ ",\n" ++ renderFields depth rest

/-- Items of a sequence, one per line. -/
def renderItems (depth : Nat) : List Doc → String
  | [] => ""
  | v :: rest => indent depth ++ v.render depth ++ ",\n" ++ renderItems depth rest

/-- Items of a tuple, on one line. -/
def renderTuple (depth : Nat) : List Doc → String
  | [] => ""
  | [v] => v.render depth
  | v :: rest => v.render depth ++ ", " ++ renderTuple depth rest

end

end Ron

end NodeGraph
