import NodeGraph.Value.Type
import NodeGraph.Number

/-!
# Values and host properties

The values that flow along links: binary32 floats, 32-bit integers, booleans, vectors of two to
four floats, colours, and opaque texture and mesh handles. Floats, vectors and colours share a
*lane* view: up to four float components, padded with zeros, on which component-wise node
operations are written once (`Lanes`).

A property map holds named values of a host, which property nodes read and write. A write succeeds
only when the new value has the type of the old one, so a property never changes type.
-/

namespace NodeGraph

/-- Two float components. -/
structure Vec2 where
  x : Float32
  y : Float32
deriving Inhabited

/-- Three float components. -/
structure Vec3 where
  x : Float32
  y : Float32
  z : Float32
deriving Inhabited

/-- Four float components; also the storage of a quaternion `x, y, z, w`. -/
structure Vec4 where
  x : Float32
  y : Float32
  z : Float32
  w : Float32
deriving Inhabited

/-- A colour with red, green, blue and alpha channels, not clamped. -/
structure Color where
  r : Float32
  g : Float32
  b : Float32
  a : Float32
deriving Inhabited

/-- A value carried by a link. -/
inductive Value where
  | float (v : Float32)
  | int (v : Int32)
  | bool (v : Bool)
  | vector2 (v : Vec2)
  | vector3 (v : Vec3)
  | vector4 (v : Vec4)
  | color (v : Color)
  | texture (handle : UInt64)
  | mesh (handle : UInt64)
deriving Inhabited

/-- Up to four float components; unused ones are zero. -/
abbrev Lanes := Vec4

namespace Vec4

/-- All four components zero. -/
def zero : Vec4 := ⟨0, 0, 0, 0⟩

/-- The components as a list. -/
def toList (v : Vec4) : List Float32 := [v.x, v.y, v.z, v.w]

/-- Applies a function to every component. -/
def map (f : Float32 → Float32) (v : Vec4) : Vec4 := ⟨f v.x, f v.y, f v.z, f v.w⟩

/-- Combines two lane sets component by component. -/
def zipWith (f : Float32 → Float32 → Float32) (a b : Vec4) : Vec4 :=
  ⟨f a.x b.x, f a.y b.y, f a.z b.z, f a.w b.w⟩

/-- The component at a position (`0` to `3`); other positions read as zero. -/
def get (v : Vec4) : Nat → Float32
  | 0 => v.x
  | 1 => v.y
  | 2 => v.z
  | 3 => v.w
  | _ => 0

/-- Replaces the component at a position (`0` to `3`). -/
def set (v : Vec4) (i : Nat) (c : Float32) : Vec4 :=
  match i with
  | 0 => { v with x := c }
  | 1 => { v with y := c }
  | 2 => { v with z := c }
  | 3 => { v with w := c }
  | _ => v

/-- Lanes from the first four entries of a list, zero-padded. -/
def ofList (cs : List Float32) : Vec4 :=
  ⟨cs.getD 0 0, cs.getD 1 0, cs.getD 2 0, cs.getD 3 0⟩

end Vec4

namespace Color

/-- All channels zero. -/
def zero : Color := ⟨0, 0, 0, 0⟩

/-- All channels one. -/
def white : Color := ⟨1, 1, 1, 1⟩

/-- The channels as lanes `r, g, b, a`. -/
def toLanes (c : Color) : Lanes := ⟨c.r, c.g, c.b, c.a⟩

/-- A colour from lanes `r, g, b, a`. -/
def ofLanes (v : Lanes) : Color := ⟨v.x, v.y, v.z, v.w⟩

end Color

/-- The value shapes made of float lanes, with their number of lanes. -/
inductive Shape where
  | float
  | vector2
  | vector3
  | vector4
  | color
deriving DecidableEq, Repr

namespace Shape

/-- The shape of a value type, for the types made of float lanes. -/
def ofType? : ValueType → Option Shape
  | .float => some .float
  | .vector2 => some .vector2
  | .vector3 => some .vector3
  | .vector4 => some .vector4
  | .color => some .color
  | _ => none

/-- The value type of a shape. -/
def type : Shape → ValueType
  | .float => .float
  | .vector2 => .vector2
  | .vector3 => .vector3
  | .vector4 => .vector4
  | .color => .color

/-- The number of lanes a shape uses. -/
def count : Shape → Nat
  | .float => 1
  | .vector2 => 2
  | .vector3 => 3
  | .vector4 => 4
  | .color => 4

/-- A value of the shape made from lanes; the lanes past the shape's count are dropped. -/
def ofLanes : Shape → Lanes → Value
  | .float, v => .float v.x
  | .vector2, v => .vector2 ⟨v.x, v.y⟩
  | .vector3, v => .vector3 ⟨v.x, v.y, v.z⟩
  | .vector4, v => .vector4 v
  | .color, v => .color (Color.ofLanes v)

theorem ofType?_type (s : Shape) : ofType? s.type = some s := by cases s <;> rfl

end Shape

namespace Value

/-- The type of a value. -/
def type : Value → ValueType
  | .float _ => .float
  | .int _ => .int
  | .bool _ => .bool
  | .vector2 _ => .vector2
  | .vector3 _ => .vector3
  | .vector4 _ => .vector4
  | .color _ => .color
  | .texture _ => .texture
  | .mesh _ => .mesh

/-- The value's float lanes, zero-padded; values without float lanes give zeros. -/
def lanes : Value → Lanes
  | .float v => ⟨v, 0, 0, 0⟩
  | .vector2 v => ⟨v.x, v.y, 0, 0⟩
  | .vector3 v => ⟨v.x, v.y, v.z, 0⟩
  | .vector4 v => v
  | .color c => c.toLanes
  | _ => Vec4.zero

/-- The value a missing input reads as: zero, false, zero vectors, handle zero. `none` for types
that are not values. -/
def zeroOf? : ValueType → Option Value
  | .float => some (.float 0)
  | .int => some (.int 0)
  | .bool => some (.bool false)
  | .vector2 => some (.vector2 ⟨0, 0⟩)
  | .vector3 => some (.vector3 ⟨0, 0, 0⟩)
  | .vector4 => some (.vector4 Vec4.zero)
  | .color => some (.color Color.zero)
  | .texture => some (.texture 0)
  | .mesh => some (.mesh 0)
  | _ => none

/-- The float of a value, or zero. -/
def asFloat : Value → Float32
  | .float v => v
  | _ => 0

/-- The integer of a value, or zero. -/
def asInt : Value → Int32
  | .int v => v
  | _ => 0

/-- The boolean of a value, or false. -/
def asBool : Value → Bool
  | .bool v => v
  | _ => false

/-- A Vector3 value's components, or zeros. -/
def asVec3 : Value → Vec3
  | .vector3 v => v
  | _ => ⟨0, 0, 0⟩

/-- A Vector4 value's components, or zeros. -/
def asVec4 : Value → Vec4
  | .vector4 v => v
  | _ => Vec4.zero

/-- A Vector2 value's components, or zeros. -/
def asVec2 : Value → Vec2
  | .vector2 v => v
  | _ => ⟨0, 0⟩

theorem type_zeroOf? (t : ValueType) (v : Value) (h : zeroOf? t = some v) : v.type = t := by
  cases t <;> simp [zeroOf?] at h <;> subst h <;> rfl

end Value

end NodeGraph

namespace NodeGraph

/-- Named values of a host, in the order their names were first inserted. -/
structure Properties where
  entries : List (String × Value) := []
deriving Inhabited

namespace Properties

/-- The value at an address. -/
def get? (p : Properties) (address : String) : Option Value :=
  (p.entries.find? (·.1 == address)).map (·.2)

/-- The type of the value at an address. -/
def typeAt? (p : Properties) (address : String) : Option ValueType :=
  (p.get? address).map Value.type

/-- Stores a value at an address, replacing any value there whatever its type. -/
def insert (p : Properties) (address : String) (v : Value) : Properties :=
  if p.entries.any (·.1 == address) then
    ⟨p.entries.map fun e => if e.1 == address then (address, v) else e⟩
  else ⟨p.entries ++ [(address, v)]⟩

/-- Writes a value to an address that holds a value of the same type; `none` when the address is
missing or holds another type. -/
def write? (p : Properties) (address : String) (v : Value) : Option Properties :=
  match p.typeAt? address with
  | some t => if t = v.type then some (p.insert address v) else none
  | none => none

end Properties

end NodeGraph
