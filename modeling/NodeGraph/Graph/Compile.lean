import NodeGraph.Graph.Slots

/-!
# Rebuilding, compiling and ticking

A *rebuild* brings a graph up to date after edits: it declares every node's inputs again, gives
inputs their hidden defaults, types the graph from its sinks (and then every node no sink reaches,
so that cycles nothing reads are typed too), and keeps as outputs the sinks that compile to a stage
producing nothing and are valid. It then lists the external slots and compiles the outputs.

Compiling the outputs first runs the light type pass over them, then compiles them in one pass, so
that a node shared by two outputs is one stage that keeps its result per tick. An output that does
not compile is reported and left out.

A tick rebuilds a dirty graph, advances the tick counter and the step, and runs each compiled
output once. Compiling or evaluating a single node uses a fresh pass whose stages share the node
state of the graph but not the kept results of its outputs.
-/

namespace NodeGraph

namespace Graph

/-- The view of the graph a compilation reads. -/
def source (g : Graph) : Source := ⟨g.nodes, g.props.isSome⟩

/-- Compiles a list of outputs in one pass, giving the stages of those that compile and reporting
the others. -/
def compileRoots (src : Source) (name : String) (ids : List NodeId) : CompileM (List Nat) :=
  ids.filterMapM fun id => do
    let s ← src.compile (src.nodes.length + 1) id
    if s.isNone then modify fun c => { c with events := c.events ++ [.outputFailed name id] }
    return s

/-- Compiles the current outputs afresh, after the light type pass over them. -/
def compileOutputs (g : Graph) : Graph :=
  let (_, _, g) := g.lightPass g.outputs
  let (roots, c) := (compileRoots g.source g.name g.outputs).run {}
  { g with program := c.program, roots := roots, events := g.events ++ c.events }

/-- Whether a sink is an output: it compiles, in the rebuild's pass, to a stage that produces
nothing, and it is valid. -/
def isOutput (g : Graph) (p : Program) (id : NodeId) : Option Nat → Bool
  | some i => ((p.stages[i]?).map (·.plan.isVoid)).getD false && g.validate id
  | none => false

/-- Rebuilds the sink list, the types, the defaults, the slots and the compiled outputs. -/
def rebuild : GraphM Unit := do
  modify fun g => { g with dirty := false, nodes := g.nodes.map Node.configure }
  injectFallbacks
  let g ← get
  let sinks := g.findSinks
  let g := sinks.foldl (fun g s => (g.updateTypesFrom s).2) g
  let reached := g.feedersOf sinks
  let g := (g.ids.filter (· ∉ reached)).foldl (fun g id => (g.updateTypesFrom id).2) g
  let (stages, c) := (g.source.compileAll sinks).run {}
  let outputs := (sinks.zip stages).filterMap fun (id, s) =>
    if g.isOutput c.program id s then some id else none
  let g := { g with outputs := outputs, events := g.events ++ c.events }
  let g := { g with slots := g.collectSlots }
  let g := g.emit (.sinksRebuilt g.name g.nodes.length sinks.length outputs.length)
  set g.compileOutputs

/-- Rebuilds a dirty graph, or else compiles its outputs afresh; node state is kept. -/
def prepare : GraphM Unit := do
  if (← get).dirty then rebuild else modify compileOutputs

/-- Runs stages of a program on the graph's nodes and properties with the program's kept results,
writing back the node state, the properties and the kept results. -/
def runStages {α : Type} (p : Program) (body : EvalM α) : GraphM (α × Program) := do
  let g ← get
  let (a, r) ← StateT.lift ((body.run { nodes := g.nodes, props := g.props, memos := p.memos }))
  set { g with nodes := r.nodes, props := r.props, events := g.events ++ r.events }
  return (a, { p with memos := r.memos })

/-- Advances one tick and runs every compiled output; `elapsed` is the host's time in seconds
since the previous tick, which a wall clock takes as its step. -/
def process (elapsed : Float32) : GraphM Unit := do
  if (← get).dirty then rebuild
  modify fun g =>
    { g with tick := g.tick + 1, dt := g.clock.step g.clockStarted elapsed, clockStarted := true }
  let g ← get
  set (g.emit (.ticked g.tick g.dt g.roots.length))
  let ((), p) ← runStages g.program
    (g.roots.forM fun i => Program.run g.program.stages g.tick g.dt i)
  modify fun g => { g with program := p }

/-- Compiles a node afresh, after the light type pass from it, giving the program and the node's
stage. -/
def compile (id : NodeId) : GraphM (Program × Option Nat) := do
  if (← get).dirty then rebuild
  let (_, _, g) := (← get).lightPass [id]
  let (s, c) := (g.source.compile (g.nodes.length + 1) id).run {}
  set { g with events := g.events ++ c.events }
  return (c.program, s)

/-- Compiles a node afresh and evaluates it at the current tick; `none` when it does not compile
or produces nothing. -/
def evaluate (id : NodeId) : GraphM (Option Value) := do
  let (p, s) ← compile id
  let some i := s | return none
  let g ← get
  let (v, _) ← runStages p (Program.evalValue p.stages g.tick g.dt i)
  return v

end Graph

end NodeGraph
