import NodeGraph.Vector.Rotation

/-!
# Random samples

A random node draws a fresh sample on every evaluation: a point in or on the unit circle or
sphere, a number in `[0, 1]` or `[-1, 1]`, or a rotation. Its draws come from a generator the graph
does not control, so no answer that depends on them can be reproduced; hosts treat those answers
as unknown. The graph therefore fixes one representative sample per distribution, which keeps
every type and every evaluation order exact.
-/

namespace NodeGraph

/-- The distribution a random node draws from. -/
inductive RandomOp where
  | insideUnitCircle | onUnitCircle | insideUnitSphere | onUnitSphere | value01 | valueMinus11
  | rotation | rotationUniform
deriving DecidableEq, Repr, Inhabited

namespace RandomOp

/-- All distributions in their fixed order. -/
def all : List RandomOp :=
  [insideUnitCircle, onUnitCircle, insideUnitSphere, onUnitSphere, value01, valueMinus11,
    rotation, rotationUniform]

/-- The distribution at a position of the fixed order. -/
def ofIndex? (i : Nat) : Option RandomOp := all[i]?

/-- The position of a distribution in the fixed order. -/
def index (op : RandomOp) : Nat := all.idxOf op

/-- The distribution's name. -/
def label : RandomOp → String
  | insideUnitCircle => "InsideUnitCircle" | onUnitCircle => "OnUnitCircle"
  | insideUnitSphere => "InsideUnitSphere" | onUnitSphere => "OnUnitSphere"
  | value01 => "Value01" | valueMinus11 => "ValueMinus11" | rotation => "Rotation"
  | rotationUniform => "RotationUniform"

/-- The type of a sample. -/
def type : RandomOp → ValueType
  | insideUnitCircle | onUnitCircle => .vector2
  | insideUnitSphere | onUnitSphere => .vector3
  | value01 | valueMinus11 => .float
  | rotation | rotationUniform => .vector4

/-- The representative sample of a distribution: the centre or the first axis point, one half,
zero, or the identity rotation. -/
def sample : RandomOp → Value
  | insideUnitCircle => .vector2 ⟨0, 0⟩
  | onUnitCircle => .vector2 ⟨1, 0⟩
  | insideUnitSphere => .vector3 ⟨0, 0, 0⟩
  | onUnitSphere => .vector3 ⟨0, 0, 1⟩
  | value01 => .float 0.5
  | valueMinus11 => .float 0
  | rotation | rotationUniform => .vector4 Vec4.identity

theorem type_sample (op : RandomOp) : (op.sample).type = op.type := by cases op <;> rfl

end RandomOp

end NodeGraph
