import NodeGraph.Program.Eval

/-!
# Graphs

A graph is an arena of nodes in insertion order, the ids to give the next user node (counting up
from 1) and the next hidden default node (counting down from -2), and what the last rebuild found:
the outputs (sinks that compile to something that produces nothing), their compiled program, and
the nodes listed as external slots. It also holds the host properties, the clock and whether it
has ticked since it was set, the current tick and step, and a `dirty` flag set by every edit that
can change types or wiring.

Ids are 32-bit: handing out an id past the range is a fault.

Editing checks its arguments: a missing node is `nodeNotFound`, an input past the node's inputs is
`inputOutOfRange`, and hidden defaults and host-wired nodes cannot be removed (`notControllable`).
Removing a node clears every link that read from it or last held it as a default.
-/

namespace NodeGraph

/-- Where the step of each tick comes from. -/
inductive Clock where
  /-- the host's time between ticks -/
  | wall
  /-- the same step every tick -/
  | fixed (dt : Float32)
deriving Inhabited

/-- The step the clock gives for the next tick: a fixed clock its step; a wall clock zero on its
first tick (`started` false) and after that `elapsed`, the host's time in seconds since the
previous tick. -/
def Clock.step (c : Clock) (started : Bool) (elapsed : Float32) : Float32 :=
  match c with
  | .wall => if started then elapsed else 0
  | .fixed dt => dt

/-- A node listed as an external slot: its type, slot name and id. -/
structure Slot where
  type : ValueType
  name : String
  node : NodeId
deriving Inhabited

/-- The smallest and largest 32-bit ids. -/
def idMin : Int := -2147483648
/-- The largest 32-bit id. -/
def idMax : Int := 2147483647

/-- `a + b` as a 32-bit id, a fault when it leaves the range. -/
def idAdd (a b : Int) : Except Fault Int :=
  if a + b < idMin ∨ idMax < a + b then .error (.overflow .add) else .ok (a + b)

/-- `a - b` as a 32-bit id, a fault when it leaves the range. -/
def idSub (a b : Int) : Except Fault Int :=
  if a - b < idMin ∨ idMax < a - b then .error (.overflow .subtract) else .ok (a - b)

/-- A node graph. -/
structure Graph where
  name : String := "Graph"
  nodes : List Node := []
  nextId : Int := 1
  nextFallbackId : Int := -2
  outputs : List NodeId := []
  program : Program := {}
  /-- the stages of the compiled outputs -/
  roots : List Nat := []
  slots : List Slot := []
  props : Option Properties := none
  clock : Clock := .wall
  /-- whether a tick was taken since the clock was set -/
  clockStarted : Bool := false
  tick : Nat := 0
  dt : Float32 := 0
  dirty : Bool := false
  events : List Event := []
deriving Inhabited

/-- Graph operations: they change the graph and may fault. -/
abbrev GraphM := StateT Graph (Except Fault)

namespace Graph

/-- The node with an id. -/
def node? (g : Graph) (id : NodeId) : Option Node := g.nodes.find? (·.id == id)

/-- Whether a node with an id exists. -/
def contains (g : Graph) (id : NodeId) : Bool := g.nodes.any (·.id == id)

/-- The ids of the nodes, in arena order. -/
def ids (g : Graph) : List NodeId := g.nodes.map (·.id)

/-- Replaces the node with an id by `f` of it. -/
def updateNode (g : Graph) (id : NodeId) (f : Node → Node) : Graph :=
  { g with nodes := g.nodes.map fun n => if n.id == id then f n else n }

/-- Records an event. -/
def emit (g : Graph) (e : Event) : Graph := { g with events := g.events ++ [e] }

/-- Installs host properties; the graph must be rebuilt. -/
def setProps (g : Graph) (p : Properties) : Graph := { g with props := some p, dirty := true }

/-- Adds a node of a kind under the next user id. -/
def addNode (k : Kind) : GraphM NodeId := do
  let g ← get
  let id := g.nextId
  let next ← StateT.lift (idAdd id 1)
  set { g with nodes := g.nodes ++ [Node.new id k], nextId := next, dirty := true }
  return id

/-- Creates a node of a registered kind. -/
def createNode (kindId : String) : GraphM (Except GraphError NodeId) := do
  match Kind.create? kindId with
  | none => return .error (.unknownKind kindId)
  | some k => return .ok (← addNode k)

/-- Removes a node, clearing every link that read from it or last held it as a default. -/
def detach (g : Graph) (id : NodeId) : Graph :=
  let clearLink (l : Link) : Link :=
    let l := if l.target = id then { l with target := noNode } else l
    if l.lastDefault = id then { l with lastDefault := noNode } else l
  { g with
    nodes := (g.nodes.map fun n => { n with inputs := n.inputs.map clearLink }).filter (·.id != id)
    dirty := true }

/-- Removes a node that the editor controls. -/
def removeNode (g : Graph) (id : NodeId) : Except GraphError (Graph × Node) :=
  match g.node? id with
  | none => .error (.nodeNotFound id)
  | some n =>
    if !n.kind.controllable then .error (.notControllable id)
    else .ok (g.detach id, n)

/-- Checks that a node has an input at a position. -/
def checkInput (g : Graph) (node : NodeId) (input : Nat) : Except GraphError Node :=
  match g.node? node with
  | none => .error (.nodeNotFound node)
  | some n => if input < n.inputs.length then .ok n else .error (.inputOutOfRange node input)

/-- Replaces the link at an input of a node. -/
def setLink (g : Graph) (node : NodeId) (input : Nat) (f : Link → Link) : Graph :=
  g.updateNode node fun n => { n with inputs := n.inputs.modify input f }

/-- Wires an input of a node to read from a source node. -/
def connect (g : Graph) (node : NodeId) (input : Nat) (source : NodeId) :
    Except GraphError Graph := do
  if !g.contains source then throw (.nodeNotFound source)
  let _ ← g.checkInput node input
  return { g.setLink node input (fun l => { l with target := source }) with dirty := true }

/-- Clears an input of a node. -/
def disconnect (g : Graph) (node : NodeId) (input : Nat) : Except GraphError Graph := do
  let _ ← g.checkInput node input
  return { g.setLink node input Link.clear with dirty := true }

/-- Moves a node on the canvas. -/
def setPosition (g : Graph) (id : NodeId) (p : Vec2) : Except GraphError Graph :=
  if g.contains id then .ok (g.updateNode id fun n => { n with position := p })
  else .error (.nodeNotFound id)

/-- Nodes that no link reads from, in arena order. -/
def findSinks (g : Graph) : List NodeId :=
  let targets := g.nodes.flatMap Node.targets
  g.ids.filter (· ∉ targets)

/-- The nodes reachable from some roots by following links, roots included; ids of missing nodes
are skipped. The walk visits each node once, so `fuel` at least the number of nodes suffices. -/
def feedersOf (g : Graph) (roots : List NodeId) : List NodeId :=
  go (g.nodes.length + 1) roots.reverse []
where
  /-- Pops ids off a stack (top first) up to the first one of a node not seen yet. -/
  next (seen : List NodeId) : List NodeId → Option (NodeId × Node × List NodeId)
    | [] => none
    | id :: stack =>
      match g.node? id with
      | none => next seen stack
      | some n => if id ∈ seen then next seen stack else some (id, n, stack)
  /-- Walks a stack of ids (top first), collecting the nodes seen. -/
  go : Nat → List NodeId → List NodeId → List NodeId
    | 0, _, seen => seen
    | fuel + 1, stack, seen =>
      match next seen stack with
      | none => seen
      | some (id, n, stack) => go fuel (n.targets.reverse ++ stack) (seen ++ [id])

/-- Hidden default nodes that some link reads from. -/
def usedFallbacks (g : Graph) : List NodeId :=
  ((g.nodes.flatMap Node.targets).filter isDefaultId).eraseDups

/-- Settings written into a node from fields: the node keeps what was read before a bad field.
Unless `declare` is false, the node's inputs are declared again afterwards. Any node found makes
the graph dirty. -/
def setFields (g : Graph) (id : NodeId) (fs : List String) (declare : Bool) :
    Graph × Option GraphError :=
  match g.node? id with
  | none => (g, some (.nodeNotFound id))
  | some n =>
    let (k, cursor, err) := n.kind.fill id fs
    let g := { g.updateNode id (fun n => { n with kind := k }) with dirty := true }
    match err with
    | some e => (g, some e)
    | none =>
      match cursor.finish with
      | .error e => (g, some e)
      | .ok () => (if declare then g.updateNode id Node.configure else g, none)

end Graph

end NodeGraph
