import NodeGraph.Program.Plan
import NodeGraph.Event

/-!
# Compiling nodes into programs

A program is an array of compiled nodes (*stages*). A stage holds its node's id, its plan, the
positions of the stages its inputs read (`none` for an input without a compiled source), the
number of consumers it was handed to, and whether it keeps its result for the rest of a tick.

Compiling a node first compiles its inputs, so every stage reads only stages before it and a
program has no cycles. One compilation pass compiles each node at most once: a node reached again
gives the same stage with one more consumer, and a stage with two or more consumers keeps its
result per tick, so a node with state advances once per tick however many nodes read it. A node
is marked as being compiled before its inputs are, so a cycle reaches it as a node without a
stage; a node whose type is `error`, that has no plan, or whose required input has no stage gets
no stage either.
-/

namespace NodeGraph

/-- A compiled node. -/
structure Stage where
  node : NodeId
  plan : Plan
  inputs : List (Option Nat)
  consumers : Nat := 1
  memoize : Bool := false
deriving Inhabited

namespace Stage

/-- The stage handed to one more consumer; from two consumers on it keeps its result per tick. -/
def addConsumer (s : Stage) : Stage :=
  { s with consumers := s.consumers + 1, memoize := s.memoize || 2 ≤ s.consumers + 1 }

end Stage

/-- What a stage kept from its last evaluation: the tick and the value (none for a stage that
produces nothing). -/
structure Memo where
  tick : Nat
  value : Option Value
deriving Inhabited

/-- Compiled stages, in compilation order, with what each kept from its last evaluation. -/
structure Program where
  stages : Array Stage := #[]
  memos : Array (Option Memo) := #[]
deriving Inhabited

/-- The state of one compilation pass. -/
structure Compiler where
  program : Program := {}
  /-- the stage of each node met so far; `none` while compiling or when it failed -/
  seen : List (NodeId × Option Nat) := []
  events : List Event := []

namespace Compiler

/-- The stage recorded for a node, if the node was met. -/
def lookup (c : Compiler) (id : NodeId) : Option (Option Nat) :=
  (c.seen.find? (·.1 == id)).map (·.2)

/-- Records the stage of a node, replacing an earlier record. -/
def record (c : Compiler) (id : NodeId) (s : Option Nat) : Compiler :=
  { c with seen := (id, s) :: c.seen.filter (·.1 != id) }

/-- Hands a stage to one more consumer. -/
def addConsumer (c : Compiler) (i : Nat) : Compiler :=
  { c with program := { c.program with stages := c.program.stages.modify i Stage.addConsumer } }

/-- Appends a stage and records it for its node. -/
def push (c : Compiler) (s : Stage) : Compiler × Nat :=
  let i := c.program.stages.size
  let c := { c with program := { stages := c.program.stages.push s,
                                 memos := c.program.memos.push none } }
  (c.record s.node (some i), i)

end Compiler

/-- Compiling with access to the graph's nodes. -/
abbrev CompileM := StateM Compiler

/-- The view of a graph a compilation needs: its nodes and whether it has host properties. -/
structure Source where
  nodes : List Node
  hasProps : Bool

namespace Source

/-- The node with an id. -/
def node? (src : Source) (id : NodeId) : Option Node := src.nodes.find? (·.id == id)

/-- The output type of the node with an id, `none` when there is no such node. -/
def typeOf (src : Source) (id : NodeId) : ValueType := ((src.node? id).map (·.type)).getD .none

/-- Compiles the inputs of node `id` from position `index` on, each with `compileNode`; `none`
when a required one has no stage. -/
def compileInputs (compileNode : NodeId → CompileM (Option Nat)) (id : NodeId) :
    List Link → Nat → CompileM (Option (List (Option Nat)))
  | [], _ => pure (some [])
  | l :: ls, index => do
    let s ← compileNode l.target
    if l.required ∧ s.isNone then
      modify fun c => { c with events := c.events ++ [.inputMissing id index] }
      return none
    match ← compileInputs compileNode id ls (index + 1) with
    | none => return none
    | some rest => return some (s :: rest)

/-- Compiles a node and what it reads; `fuel` bounds the depth and is at least the number of
nodes not yet met. -/
def compile (src : Source) : Nat → NodeId → CompileM (Option Nat)
  | 0, _ => pure none
  | fuel + 1, id => do
    if id = noNode then return none
    match (← get).lookup id with
    | some none => return none
    | some (some i) =>
      modify (·.addConsumer i)
      return some i
    | none =>
      match src.node? id with
      | none => return none
      | some n =>
        modify (·.record id none)
        if n.type = .error then return none
        let ins := n.inputs.map fun l => src.typeOf l.target
        match n.kind.plan id n.type ins src.hasProps with
        | none => return none
        | some plan =>
          match ← compileInputs (src.compile fuel) id n.inputs 0 with
          | none => return none
          | some inputs =>
            let (c, i) := (← get).push { node := id, plan := plan, inputs := inputs }
            set c
            return some i

/-- Compiles a list of roots in one pass, giving each root's stage. -/
def compileAll (src : Source) (roots : List NodeId) : CompileM (List (Option Nat)) :=
  roots.mapM (src.compile (src.nodes.length + 1))

end Source

end NodeGraph
