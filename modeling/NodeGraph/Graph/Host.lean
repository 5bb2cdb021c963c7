import NodeGraph.Graph.Diagnostic

/-!
# Host access

Small operations a host uses besides editing: building kinds with settings, declaring a node's
inputs again, writing a value node's constant directly, reading a link, setting the clock and
host properties, and inspecting the settings of the kinds a host builds.

Operations that reach into a node mark the graph dirty whenever the node exists, whether or not
they change it.
-/

namespace NodeGraph

namespace Kind

/-- A value node with a slot name, listing flag, host wiring and constant. -/
def valueNode (name : String) (external : Bool) (io : IoMode) (c : Constant) : Kind :=
  .value name external io c

/-- A math node with an operation. -/
def mathNode (op : MathOp) : Kind := .math op

/-- A boolean node with an operation. -/
def boolNode (op : BoolOp) : Kind := .boolOperator op false

end Kind

namespace Graph

/-- Declares a node's inputs again, giving their number. -/
def configureNode (g : Graph) (id : NodeId) : Except GraphError (Graph × Nat) :=
  match g.node? id with
  | none => .error (.nodeNotFound id)
  | some n =>
    let n := n.configure
    .ok ({ g.updateNode id (fun _ => n) with dirty := true }, n.inputs.length)

/-- Writes the constant of a value node holding a value of the same type; whether the node is such
a value node. -/
def setConstant (g : Graph) (id : NodeId) (c : Constant) : Graph × Bool :=
  match g.node? id with
  | none => (g, false)
  | some n =>
    let g := { g with dirty := true }
    match n.kind with
    | .value name e io old =>
      match old.replace c with
      | some c => (g.updateNode id fun n => { n with kind := .value name e io c }, true)
      | none => (g, false)
    | _ => (g, false)

/-- The link at an input of a node. -/
def linkAt? (g : Graph) (id : NodeId) (input : Nat) : Option Link :=
  (g.node? id).bind (·.input? input)

/-- Sets the clock. -/
def setClock (g : Graph) (c : Clock) : Graph := { g with clock := c, clockStarted := false }

/-- Stores a host property, when the graph has host properties. -/
def insertProp (g : Graph) (name : String) (v : Value) : Option Graph :=
  g.props.map fun p => { g with props := some (p.insert name v) }

/-- The kind name and settings a host can inspect: constants, curves, ramps, math operations,
swizzle components and property addresses. -/
def inspect? (g : Graph) (id : NodeId) : Option (String × Report) :=
  (g.node? id).bind fun n =>
    match n.kind with
    | .value _ _ _ c => some (n.kind.id, Report.typed c.type (Report.ofValue c.toValue))
    | .fallback c => some (n.kind.id, Report.typed c.type (Report.ofValue c.toValue))
    | .curve _ _ c => some (n.kind.id, Report.curve c)
    | .ramp _ _ r => some (n.kind.id, Report.ramp r)
    | .math op => some (n.kind.id, .text op.label)
    | .swizzle cs => some (n.kind.id, .text cs)
    | .propertyInput a => some (n.kind.id, .text a)
    | .propertyOutput a => some (n.kind.id, .text a)
    | _ => none

end Graph

end NodeGraph
