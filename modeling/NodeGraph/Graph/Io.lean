import NodeGraph.Graph.Text

/-!
# Host wiring

A host declares its inputs and outputs as value nodes, by type and name, in a declaration session.
The session starts from the host-wired nodes of the graph (in arena order). A declaration reuses a
pending node with the same name and value kind, one with the same mode first, and otherwise
creates a node, placed in the input column (left) or the output column (right) one row below the
previous declaration of that column. Either way the node takes the mode and name declared and
declares its inputs again.

Finishing the session removes the pending nodes not declared again, unless they are listed as
external slots, and prepares the graph.
-/

namespace NodeGraph

namespace Kind

/-- The kind with host wiring and slot name set; only value nodes can be wired. -/
def setIo? (k : Kind) (mode : IoMode) (name : String) : Option Kind :=
  match k with
  | .value _ e _ c => some (.value name e mode c)
  | _ => none

/-- Whether a kind is listed as an external slot. -/
def listed (k : Kind) : Bool :=
  match k.slot? with
  | some (_, e, _) => e
  | none => false

end Kind

/-- The canvas column of host inputs. -/
def ioInputColumn : Float32 := -272

/-- The canvas column of host outputs. -/
def ioOutputColumn : Float32 := 160

/-- The height of a row of host nodes. -/
def ioRow : Float32 := 64

/-- A declaration session: the host-wired nodes not declared again yet, by name and id, and the
next row of each column. -/
structure IoSession where
  pending : List (String × NodeId)
  inputRow : Float32 := 0
  outputRow : Float32 := 0
deriving Inhabited

namespace Graph

/-- Starts a declaration session. -/
def beginIo (g : Graph) : IoSession :=
  { pending := g.nodes.filterMap fun n =>
      match n.kind.slot? with
      | some (name, _, _) => if n.kind.ioMode != .none then some (name, n.id) else none
      | none => none }

/-- Whether a pending entry can serve a declaration of kind `kindId`, name and mode. -/
def ioMatches (g : Graph) (kindId name : String) (mode : Option IoMode) (entry : String × NodeId) :
    Bool :=
  entry.1 == name && match g.node? entry.2 with
    | some n => n.kind.id == kindId && match mode with
      | some m => n.kind.ioMode == m
      | none => true
    | none => false

/-- Declares a host input or output of a type and name, giving the id of its node. -/
def declareIo (s : IoSession) (t : ValueType) (name : String) (mode : IoMode) :
    GraphM (Except GraphError NodeId × IoSession) := do
  let some kindId := Kind.ioId? t | return (.error (.noIoKind t), s)
  let g ← get
  let reused := (s.pending.findIdx? (g.ioMatches kindId name (some mode))).orElse
    fun () => s.pending.findIdx? (g.ioMatches kindId name none)
  let output := mode == .output
  let (found, s) ← match reused with
    | some i => pure (Except.ok (s.pending[i]?.map (·.2) |>.getD noNode),
        { s with pending := s.pending.eraseIdx i })
    | none => do
      match ← createNode kindId with
      | .error e => pure (.error e, s)
      | .ok id =>
        let row := if output then s.outputRow else s.inputRow
        let x := if output then ioOutputColumn else ioInputColumn
        match (← get).setPosition id ⟨x, row⟩ with
        | .ok g => set g; pure (.ok id, s)
        | .error e => pure (.error e, s)
  match found with
  | .error e => return (.error e, s)
  | .ok id =>
    let s := if output then { s with outputRow := s.outputRow + ioRow }
      else { s with inputRow := s.inputRow + ioRow }
    let g ← get
    match g.node? id with
    | none => return (.error (.nodeNotFound id), s)
    | some n =>
      match n.kind.setIo? mode name with
      | none => set { g with dirty := true }; return (.error (.noIoKind t), s)
      | some k =>
        set { g.updateNode id (fun n => Node.configure { n with kind := k }) with dirty := true }
        return (.ok id, s)

/-- Ends a declaration session: removes the pending nodes not listed as external slots, then
prepares the graph. -/
def finishIo (s : IoSession) : GraphM Unit := do
  for (name, id) in s.pending do
    let keep := (((← get).node? id).map (·.kind.listed)).getD false
    if !keep then
      modify fun g => (g.detach id).emit (.ioDiscarded id name)
  prepare

end Graph

end NodeGraph
