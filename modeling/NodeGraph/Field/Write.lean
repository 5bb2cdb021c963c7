import NodeGraph.Decimal.Layout
import NodeGraph.Decimal.Read
import NodeGraph.Text.Basic
import NodeGraph.Error
import NodeGraph.Curve.Basic
import NodeGraph.Curve.Ramp

/-!
# Literals and fields of the graph text

Single numbers and flags: floats in the plain layout, colour channels, key times and curve values
with a fixed number of places (trailing zeros removed, negative zero written `0`), integers in
decimal, booleans as `t` and `f`; a field that is not a literal is an `invalidLiteral` error.

A node's settings are written as one field per setting, in the kind's order: enumerations by their
number, names with `|` and `#` replaced by `_`, vectors as comma-joined components, curves as
`pre;post;time,value,in,out,mode;...` and ramps as `mode;time,r,g,b,a:...;time,alpha:...`.
-/

namespace NodeGraph
namespace Literal

/-- A float rounded to `places` fractional digits, without trailing zeros or a trailing point;
a negative zero is written `0`. -/
def trimmed (x : Float32) (places : Nat) : String :=
  let text := (Decimal.places32 x places).toList
  let text :=
    if '.' ∈ text then
      ((text.reverse.dropWhile (· = '0')).dropWhile (· = '.')).reverse
    else text
  if text = ['-', '0'] then "0" else String.ofList text

/-- A float as written in the graph text. -/
def float (x : Float32) : String := Decimal.plain32 x

/-- A boolean as written in the graph text. -/
def bool (b : Bool) : String := if b then "t" else "f"

/-- Reads a float field of a node. -/
def readFloat (node : NodeId) (text : String) : Except GraphError Float32 :=
  match Decimal.readFloat32 (Text.trim text.toList) with
  | some x => .ok x
  | none => .error (.invalidLiteral node "float" text)

/-- Reads an integer field of a node. -/
def readInt (node : NodeId) (text : String) : Except GraphError Int32 :=
  match Decimal.readInt32 (Text.trim text.toList) with
  | some x => .ok x
  | none => .error (.invalidLiteral node "int" text)

/-- Reads a boolean field of a node: exactly `t` or `f`. -/
def readBool (node : NodeId) (text : String) : Except GraphError Bool :=
  if text = "t" then .ok true
  else if text = "f" then .ok false
  else .error (.invalidLiteral node "bool" text)

end Literal
end NodeGraph

namespace NodeGraph
namespace Field

/-- An integer field. -/
def int (i : Int) : String := toString i

/-- A float field. -/
def float (x : Float32) : String := Literal.float x

/-- A flag field. -/
def bool (b : Bool) : String := Literal.bool b

/-- A name field: the record delimiters become underscores. -/
def string (s : String) : String :=
  String.ofList (s.toList.map fun c => if c = '|' ∨ c = '#' then '_' else c)

/-- A vector field: the components by their shortest digits, joined by commas. -/
def floats (xs : List Float32) : String := ",".intercalate (xs.map Literal.float)

/-- The places of a colour channel or a ramp alpha. -/
def colorPlaces : Nat := 3

/-- The places of a key time. -/
def timePlaces : Nat := 3

/-- The places of a curve value or tangent. -/
def curvePlaces : Nat := 2

/-- A colour field: each channel with three places. -/
def color (xs : List Float32) : String :=
  ",".intercalate (xs.map fun x => Literal.trimmed x colorPlaces)

/-- The text of a curve key. -/
def curveKey (k : CurveKey) : String :=
  ",".intercalate [Literal.trimmed k.time timePlaces, Literal.trimmed k.value curvePlaces,
    Literal.trimmed k.inTangent curvePlaces, Literal.trimmed k.outTangent curvePlaces,
    toString k.tangentMode.toInt]

/-- A curve field. -/
def curve (c : Curve) : String :=
  ";".intercalate ([int c.pre.index, int c.post.index] ++ c.keys.map curveKey)

/-- The text of a colour key of a ramp. -/
def colorKey (k : ColorKey) : String :=
  ",".intercalate (Literal.trimmed k.time timePlaces :: k.color.toList.map fun x => Literal.trimmed x colorPlaces)

/-- The text of an alpha key of a ramp. -/
def alphaKey (k : AlphaKey) : String :=
  Literal.trimmed k.time timePlaces ++ "," ++ Literal.trimmed k.alpha colorPlaces

/-- A ramp field. -/
def ramp (r : Ramp) : String :=
  int r.mode.index ++ ";" ++ ":".intercalate (r.colorKeys.map colorKey) ++ ";" ++
    ":".intercalate (r.alphaKeys.map alphaKey)

end Field
end NodeGraph
