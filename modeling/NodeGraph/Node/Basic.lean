import NodeGraph.Node.Declare
import NodeGraph.Node.Fields

/-!
# Nodes

A node is an id, a position on the editor canvas, its input links, the output type found by the
last type pass, and its kind. A new node has its inputs declared and its kind's declared output
type.
-/

namespace NodeGraph

/-- A node of a graph. -/
structure Node where
  id : NodeId
  position : Vec2 := ⟨0, 0⟩
  inputs : List Link := []
  type : ValueType
  kind : Kind
deriving Inhabited

namespace Node

/-- A new node of a kind, with its inputs declared. -/
def new (id : NodeId) (k : Kind) : Node :=
  { id := id, inputs := k.configure [], type := k.declaredType, kind := k }

/-- The node with its inputs declared again for its current settings. -/
def configure (n : Node) : Node := { n with inputs := n.kind.configure n.inputs }

/-- The node with its output type resolved from the types its inputs read, and its inputs as the
kind adjusts them. -/
def resolve (n : Node) (ts : List ValueType) (props : Option Properties) : Node :=
  let (t, inputs) := n.kind.resolve n.inputs ts props
  { n with type := t, inputs := inputs }

/-- The input at a position. -/
def input? (n : Node) (i : Nat) : Option Link := n.inputs[i]?

/-- The targets of the node's inputs, in order. -/
def targets (n : Node) : List NodeId := n.inputs.map (·.target)

@[simp] theorem id_configure (n : Node) : n.configure.id = n.id := rfl

@[simp] theorem id_resolve (n : Node) (ts : List ValueType) (p : Option Properties) :
    (n.resolve ts p).id = n.id := rfl

@[simp] theorem kind_configure (n : Node) : n.configure.kind = n.kind := rfl

@[simp] theorem kind_resolve (n : Node) (ts : List ValueType) (p : Option Properties) :
    (n.resolve ts p).kind = n.kind := rfl

end Node

end NodeGraph
