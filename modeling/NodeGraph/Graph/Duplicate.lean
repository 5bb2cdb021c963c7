import NodeGraph.Graph.Compile

/-!
# Duplicating a selection

Duplicating copies the selected nodes that exist, that the editor controls and that are not hidden
defaults, in selection order (a node selected twice is copied twice). Each copy gets its settings
by writing the selected node's fields and reading them into a fresh node of the same kind, and sits
below the selection: one grid step to the right and the selection's height plus a gap further
down. Links between copied nodes are carried over to the copies; every other link is cleared and
left to the next default pass, and no copy remembers a default.
-/

namespace NodeGraph

namespace Graph

/-- The vertical gap between a selection and its copies. -/
def duplicateGap : Float32 := 64

/-- The horizontal offset of copies. -/
def duplicateStep : Float32 := 16

/-- The nodes a selection copies. -/
def copySources (g : Graph) (sel : List NodeId) : List Node :=
  (sel.filterMap g.node?).filter fun n => n.kind.controllable && !n.kind.isDefault

/-- A copy of a kind's settings for node `id`, through the kind's fields. -/
def copyKind (k : Kind) (id : NodeId) : Except GraphError Kind := do
  let some fresh := Kind.create? k.id | throw (.unknownKind k.id)
  let (k', cursor, err) := fresh.fill id k.fields
  if let some e := err then throw e
  cursor.finish
  return k'

/-- The copies of a list of nodes under consecutive ids from `first`, shifted by `shift`,
with the links of the nodes copied. -/
def copies (first : NodeId) (shift : Vec2) :
    Nat → List Node → GraphM (Except GraphError (List (NodeId × Node)))
  | _, [] => return .ok []
  | offset, n :: rest => do
    let id ← StateT.lift (idAdd first offset)
    match copyKind n.kind id with
    | .error e => return .error e
    | .ok k =>
      let copy := { Node.new id k with
        position := ⟨n.position.x + shift.x, n.position.y + shift.y⟩, inputs := n.inputs }
      match ← copies first shift (offset + 1) rest with
      | .error e => return .error e
      | .ok more => return .ok ((n.id, copy) :: more)

/-- Puts a node into the arena: in place of the node with its id, or else at the end. -/
def insertNode (g : Graph) (n : Node) : Graph :=
  if g.contains n.id then g.updateNode n.id fun _ => n else { g with nodes := g.nodes ++ [n] }

/-- The copy a link's target maps to: the last copy made of it, or no node. -/
def remapTarget (pairs : List (NodeId × Node)) (t : NodeId) : NodeId :=
  ((pairs.reverse.find? (·.1 == t)).map (·.2.id)).getD noNode

/-- Copies the selected nodes below the selection, giving the ids of the copies. -/
def duplicate (sel : List NodeId) : GraphM (Except GraphError (List NodeId)) := do
  let g ← get
  let picked := g.copySources sel
  if picked.isEmpty then return .error .emptySelection
  let ys := picked.map (·.position.y)
  let lo := ys.foldl Number.minNum Number.maxFinite
  let hi := ys.foldl Number.maxNum (-Number.maxFinite)
  match ← copies g.nextId ⟨duplicateStep, hi - lo + duplicateGap⟩ 0 picked with
  | .error e => return .error e
  | .ok pairs =>
    let next ← StateT.lift (idAdd g.nextId pairs.length)
    let relink (l : Link) : Link :=
      { l with target := remapTarget pairs l.target, lastDefault := noNode }
    let made := pairs.map fun (_, c) => { c with inputs := c.inputs.map relink }
    set { made.foldl Graph.insertNode g with nextId := next, dirty := true }
    return .ok (made.map (·.id))

end Graph

end NodeGraph
