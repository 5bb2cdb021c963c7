import NodeGraph.Graph.Basic

/-!
# Type passes and hidden defaults

The full pass (`updateTypes`) declares each node's inputs again and walks up from a node along a
path; a node met again on its own path is in a cycle and gets type `error`. The light pass
(`updateTypesLight`) resolves each node once per pass and reads the type a node already has when
it meets it again. A node with a required input reading a node of type `error` is `error` itself.

Every input that allows defaults, is not wired to a user node and declares a type with a default
kind gets a hidden constant node, reused while it still fits and otherwise created under the next
default id (counting down from -2).
-/

namespace NodeGraph

namespace Graph

/-- Resolves the type of a node from the types its inputs read, with tainting by required inputs
of type `error`. A missing node has type `none`. -/
def resolveAt (g : Graph) (id : NodeId) (ts : List ValueType) : ValueType × Graph :=
  match g.node? id with
  | none => (.none, g)
  | some n =>
    let n := n.resolve ts g.props
    let tainted := (n.inputs.zip ts).any fun (l, t) => l.required && t == .error
    let n := if tainted then { n with type := .error } else n
    (n.type, g.updateNode id fun _ => n)

/-- The full type pass from a node along a path of nodes above it; `fuel` bounds the path's length
and is more than the number of nodes. The targets of the node's inputs are typed in order, each by
the full pass along the path extended by the node. -/
def updateTypes : Nat → NodeId → List NodeId → Graph → ValueType × Graph
  | 0, _, _, g => (.none, g)
  | fuel + 1, id, path, g =>
    match g.node? id with
    | none => (.none, g)
    | some _ =>
      let g := g.updateNode id Node.configure
      if id ∈ path then (.error, g.updateNode id fun n => { n with type := .error })
      else
        let targets := ((g.node? id).map Node.targets).getD []
        let typeOf : NodeId → StateM Graph ValueType := fun t => updateTypes fuel t (id :: path)
        let (ts, g) := (targets.mapM typeOf).run g
        g.resolveAt id ts

/-- The full type pass from a node. -/
def updateTypesFrom (g : Graph) (id : NodeId) : ValueType × Graph :=
  updateTypes (g.nodes.length + 2) id [] g

/-- The light type pass from a node with the nodes resolved so far in this pass; `fuel` is more
than the number of nodes not yet resolved. The targets of the node's inputs are typed in order,
each by the light pass, with the node counted as resolved. -/
def updateTypesLight : Nat → NodeId → List NodeId → Graph → ValueType × List NodeId × Graph
  | 0, _, resolved, g => (.none, resolved, g)
  | fuel + 1, id, resolved, g =>
    match g.node? id with
    | none => (.none, resolved, g)
    | some n =>
      if id ∈ resolved then (n.type, resolved, g)
      else
        let typeOf : NodeId → StateM (List NodeId × Graph) ValueType :=
          fun t s => updateTypesLight fuel t s.1 s.2
        let (ts, resolved, g) := (n.targets.mapM typeOf).run (resolved ++ [id], g)
        let (t, g) := g.resolveAt id ts
        (t, resolved, g)

/-- The light pass over a list of nodes sharing one set of resolved nodes. -/
def lightPass (g : Graph) (ids : List NodeId) (resolved : List NodeId := []) :
    List ValueType × List NodeId × Graph :=
  match ids with
  | [] => ([], resolved, g)
  | id :: rest =>
    let (t, resolved, g) := updateTypesLight (g.nodes.length + 2) id resolved g
    let (ts, resolved, g) := g.lightPass rest resolved
    (t :: ts, resolved, g)

/-- Whether a node is valid: not of type `error`, no input declared `error`, and every required
input reading an existing node not of type `error`. -/
def validate (g : Graph) (id : NodeId) : Bool :=
  match g.node? id with
  | none => false
  | some n =>
    n.type != .error && n.inputs.all fun l =>
      l.valueType != .error &&
        (!l.required || match g.node? l.target with
          | some src => src.type != .error
          | none => false)

end Graph

end NodeGraph

namespace NodeGraph

namespace Graph

/-- Creates a hidden default node of a kind under the next default id. -/
def createFallback (kindId : String) : GraphM (Option NodeId) := do
  match Kind.create? kindId with
  | none => return none
  | some k =>
    let g ← get
    let id := g.nextFallbackId
    let next ← StateT.lift (idSub id 1)
    let n := Node.new id k
    set ({ g with nodes := g.nodes ++ [{ n with type := k.declaredType }],
                  nextFallbackId := next }.emit (.fallbackCreated id kindId))
    return some id

/-- Whether a node can serve as the default of an input declared with type `t`. -/
def fits (g : Graph) (candidate : NodeId) (t : ValueType) : Bool :=
  match g.node? candidate with
  | some n => n.kind.isDefault && Typing.accepts t n.kind.declaredType
  | none => false

/-- Gives one input of a node a default when it needs one. -/
def fillInput (id : NodeId) (index : Nat) : GraphM Unit := do
  let g ← get
  let some n := g.node? id | return
  let some l := n.inputs[index]? | return
  if l.noDefaults || l.isConnected then return
  let some kindId := Kind.fallbackId? l.valueType | return
  let candidate := if isDefaultId l.target then l.target else l.lastDefault
  let target ← if g.fits candidate l.valueType then pure (some candidate)
    else createFallback kindId
  let some target := target | return
  modify fun g => g.setLink id index fun l => { l with target := target, lastDefault := target }

/-- Gives every input that needs one a default. -/
def injectFallbacks : GraphM Unit := do
  for id in (← get).ids do
    let count := (((← get).node? id).map (·.inputs.length)).getD 0
    for index in List.range count do
      fillInput id index

end Graph

end NodeGraph
