import NodeGraph.Field.Read

/-!
# Constants

The values a value node or a hidden default node holds: a float, an integer, a flag, a vector or a
colour. A node's constant keeps its type for the node's life; writing a constant of another type
into it is refused (`Constant.replace`).

A constant is written to a field list as one field (`Constant.field`), and a default node writes it
as separate parts, one per component (`Constant.parts`). Parts are read back only in exactly the
number written: extra parts are `trailingFields`, missing ones `missingField`.
-/

namespace NodeGraph

/-- A constant held by a value or default node. -/
inductive Constant where
  | float (v : Float32)
  | int (v : Int32)
  | bool (v : Bool)
  | vector2 (v : Vec2)
  | vector3 (v : Vec3)
  | vector4 (v : Vec4)
  | color (v : Color)
deriving Inhabited

namespace Constant

/-- The type of a constant. -/
def type : Constant → ValueType
  | .float _ => .float
  | .int _ => .int
  | .bool _ => .bool
  | .vector2 _ => .vector2
  | .vector3 _ => .vector3
  | .vector4 _ => .vector4
  | .color _ => .color

/-- The constant as a value. -/
def toValue : Constant → Value
  | .float v => .float v
  | .int v => .int v
  | .bool v => .bool v
  | .vector2 v => .vector2 v
  | .vector3 v => .vector3 v
  | .vector4 v => .vector4 v
  | .color v => .color v

/-- The constant of a value, for the value types a constant can have. -/
def ofValue? : Value → Option Constant
  | .float v => some (.float v)
  | .int v => some (.int v)
  | .bool v => some (.bool v)
  | .vector2 v => some (.vector2 v)
  | .vector3 v => some (.vector3 v)
  | .vector4 v => some (.vector4 v)
  | .color v => some (.color v)
  | _ => none

/-- The zero constant of a type: zero, false, the zero vector, the transparent black colour. -/
def zeroOf? : ValueType → Option Constant
  | .float => some (.float 0)
  | .int => some (.int 0)
  | .bool => some (.bool false)
  | .vector2 => some (.vector2 ⟨0, 0⟩)
  | .vector3 => some (.vector3 ⟨0, 0, 0⟩)
  | .vector4 => some (.vector4 Vec4.zero)
  | .color => some (.color Color.zero)
  | _ => none

/-- The new constant when it has the old one's type. -/
def replace (old new : Constant) : Option Constant :=
  if old.type = new.type then some new else none

/-- The float components of a vector or colour constant. -/
def components : Constant → List Float32
  | .float v => [v]
  | .vector2 v => [v.x, v.y]
  | .vector3 v => [v.x, v.y, v.z]
  | .vector4 v => v.toList
  | .color c => [c.r, c.g, c.b, c.a]
  | _ => []

/-- A constant of the same type as `like` from float components (missing ones zero). -/
def withComponents (like : Constant) (xs : List Float32) : Constant :=
  match like with
  | .float _ => .float (xs.getD 0 0)
  | .vector2 _ => .vector2 ⟨xs.getD 0 0, xs.getD 1 0⟩
  | .vector3 _ => .vector3 ⟨xs.getD 0 0, xs.getD 1 0, xs.getD 2 0⟩
  | .vector4 _ => .vector4 (Vec4.ofList xs)
  | .color _ => .color (Color.ofLanes (Vec4.ofList xs))
  | c => c

/-- The constant as one field. -/
def field : Constant → String
  | .float v => Field.float v
  | .int v => Field.int v.toInt
  | .bool v => Field.bool v
  | .color c => Field.color [c.r, c.g, c.b, c.a]
  | c => Field.floats c.components

/-- Reads a constant of the same type as `like` from the next field. -/
def read (like : Constant) : FieldRead Constant :=
  match like with
  | .float _ => Constant.float <$> Cursor.float
  | .int _ => Constant.int <$> Cursor.int
  | .bool _ => Constant.bool <$> Cursor.bool
  | .vector2 _ => like.withComponents <$> Cursor.floats 2 "vector2"
  | .vector3 _ => like.withComponents <$> Cursor.floats 3 "vector3"
  | .vector4 _ => like.withComponents <$> Cursor.floats 4 "vector4"
  | .color _ => like.withComponents <$> Cursor.floats 4 "color"

/-- The constant as separate parts: one per component, colours with three places. -/
def parts : Constant → List String
  | .float v => [Field.float v]
  | .int v => [Field.int v.toInt]
  | .bool v => [Field.bool v]
  | .color c => [c.r, c.g, c.b, c.a].map fun x => Literal.trimmed x Field.colorPlaces
  | c => c.components.map Field.float

/-- The number of parts a constant of the type of `like` is written in. -/
def partCount (like : Constant) : Nat :=
  match like with
  | .float _ | .int _ | .bool _ => 1
  | .vector2 _ => 2
  | .vector3 _ => 3
  | .vector4 _ | .color _ => 4

/-- Reads a constant of the same type as `like` from exactly its number of parts. -/
def ofParts (like : Constant) (node : NodeId) (ps : List String) : Except GraphError Constant := do
  let n := like.partCount
  if n < ps.length then throw (.trailingFields node (ps.length - n))
  if ps.length < n then throw (.missingField node ps.length)
  match like with
  | .int _ => Constant.int <$> Literal.readInt node (ps.getD 0 "")
  | .bool _ => Constant.bool <$> Literal.readBool node (ps.getD 0 "")
  | _ => like.withComponents <$> ps.mapM (Literal.readFloat node)

theorem type_replace (old new c : Constant) (h : old.replace new = some c) : c.type = old.type := by
  unfold replace at h
  split at h
  · cases h
    rename_i h
    exact h.symm
  · cases h

end Constant

end NodeGraph
