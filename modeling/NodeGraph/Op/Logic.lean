import NodeGraph.Number

/-!
# Comparisons and boolean operations

The comparison of the condition node (greater, at least, equal, on floats, so NaN compares false)
and the operations of the boolean node. `triggerA` compares the input with the value it had at
the previous evaluation and reports a change.
-/

namespace NodeGraph

/-- The comparison of a condition node. -/
inductive ConditionOp where
  | aMoreThanB
  | aMoreOrEqualB
  | aEqualB
deriving DecidableEq, Repr, Inhabited

namespace ConditionOp

/-- All comparisons in their fixed order. -/
def all : List ConditionOp := [aMoreThanB, aMoreOrEqualB, aEqualB]

/-- The comparison at a position of the fixed order. -/
def ofIndex? (i : Nat) : Option ConditionOp := all[i]?

/-- The position of a comparison in the fixed order. -/
def index (op : ConditionOp) : Nat := all.idxOf op

/-- The comparison's name. -/
def label : ConditionOp → String
  | aMoreThanB => "AMoreThanB" | aMoreOrEqualB => "AMoreOrEqualB" | aEqualB => "AEqualB"

/-- Whether `a` and `b` pass the comparison. -/
def test : ConditionOp → Float32 → Float32 → Bool
  | aMoreThanB, a, b => b < a
  | aMoreOrEqualB, a, b => b ≤ a
  | aEqualB, a, b => a == b

end ConditionOp

/-- The operation of a boolean node. -/
inductive BoolOp where
  | invertA
  | triggerA
  | equal
  | or
  | and
  | xor
deriving DecidableEq, Repr, Inhabited

namespace BoolOp

/-- All operations in their fixed order. -/
def all : List BoolOp := [invertA, triggerA, equal, or, and, xor]

/-- The operation at a position of the fixed order. -/
def ofIndex? (i : Nat) : Option BoolOp := all[i]?

/-- The position of an operation in the fixed order. -/
def index (op : BoolOp) : Nat := all.idxOf op

/-- The operation's name. -/
def label : BoolOp → String
  | invertA => "InvertA" | triggerA => "TriggerA" | equal => "Equal" | or => "Or"
  | and => "And" | xor => "Xor"

/-- Whether the operation reads its second input. -/
def usesB : BoolOp → Bool
  | invertA | triggerA => false
  | _ => true

end BoolOp

end NodeGraph
