/-!
# Value types

Every node output and every input link carries a `ValueType`. Besides the concrete kinds a node
can produce (floats, vectors, colours, integers, booleans, handles, curves and ramps) there are
three markers: `none` for a node that produces nothing, `error` for a node whose inputs do not
type-check, and the two wildcards `anyScalar` and `anyVector` that an input may declare.

The table of properties (`isVector`, `isValue`, `isValueExceptInt`, `components`) drives the
typing rules; `ValueType.ofIndex?` reads the fixed numbering used in reports.
-/

namespace NodeGraph

/-- The type of a node's output or of an input link. -/
inductive ValueType where
  /-- produces nothing (sinks, output-mode values) -/
  | none
  /-- the node's inputs do not type-check -/
  | error
  /-- an input accepting any single value -/
  | anyScalar
  /-- an input accepting any vector or colour -/
  | anyVector
  | float
  | vector2
  | vector3
  | vector4
  | color
  | int
  | bool
  | texture
  | mesh
  | curve
  | ramp
deriving DecidableEq, Repr, Inhabited

namespace ValueType

/-- All value types in their fixed order. -/
def all : List ValueType :=
  [none, error, anyScalar, anyVector, float, vector2, vector3, vector4, color, int, bool,
    texture, mesh, curve, ramp]

/-- The value type at a position of the fixed order. -/
def ofIndex? (i : Nat) : Option ValueType := all[i]?

/-- The position of a value type in the fixed order. -/
def index : ValueType → Nat
  | none => 0 | error => 1 | anyScalar => 2 | anyVector => 3 | float => 4 | vector2 => 5
  | vector3 => 6 | vector4 => 7 | color => 8 | int => 9 | bool => 10 | texture => 11
  | mesh => 12 | curve => 13 | ramp => 14

theorem ofIndex?_index (t : ValueType) : ofIndex? t.index = some t := by
  cases t <;> rfl

/-- The name of a value type as it is written in reports and messages. -/
def name : ValueType → String
  | none => "None" | error => "Error" | anyScalar => "AnyScalar" | anyVector => "AnyVector"
  | float => "Float" | vector2 => "Vector2" | vector3 => "Vector3" | vector4 => "Vector4"
  | color => "Color" | int => "Int" | bool => "Bool" | texture => "Texture" | mesh => "Mesh"
  | curve => "Curve" | ramp => "Ramp"

/-- The value type with a given name. -/
def ofName? (s : String) : Option ValueType := all.find? (·.name == s)

/-- Vectors, colours and the vector wildcard. -/
def isVector : ValueType → Bool
  | anyVector | vector2 | vector3 | vector4 | color => true
  | _ => false

/-- Types that carry a single numeric or vector value: floats, vectors, colours, integers and
the two wildcards. -/
def isValue : ValueType → Bool
  | anyScalar | anyVector | float | vector2 | vector3 | vector4 | color | int => true
  | _ => false

/-- Values other than integers. -/
def isValueExceptInt : ValueType → Bool
  | anyScalar | anyVector | float | vector2 | vector3 | vector4 | color => true
  | _ => false

/-- Float or integer. -/
def isFloatOrInt : ValueType → Bool
  | float | int => true
  | _ => false

/-- The number of float components of a value: one for scalars, up to four for vectors. -/
def components : ValueType → Nat
  | float | int | anyScalar => 1
  | vector2 => 2
  | vector3 => 3
  | vector4 | color | anyVector => 4
  | _ => 0

theorem isValue_of_isVector (t : ValueType) (h : t.isVector = true) : t.isValue = true := by
  cases t <;> simp_all [isVector, isValue]

end ValueType

end NodeGraph
