import NodeGraph.Graph.Types

/-!
# External slots

Value, curve and ramp nodes, and hidden defaults, hold a value a host can read and write directly
(`Graph.slotValue?`, `Graph.writeSlot`). Writing checks the type: a node of another kind, or a
value of another type, is `wrongNodeKind` naming the type asked for. Writes go straight into the
node and need no rebuild.

Nodes flagged as external are listed after each rebuild by type, in arena order, with their slot
names (`Graph.collectSlots`). A host can keep a list of values per type in step with the slots
(`SlotInputs.sync`) and push them back (`SlotInputs.apply`).
-/

namespace NodeGraph

/-- A value held by a node that a host can read and write. -/
inductive SlotValue where
  | constant (c : Constant)
  | curve (c : Curve)
  | ramp (r : Ramp)
deriving Inhabited

namespace SlotValue

/-- The type of a slot value. -/
def type : SlotValue → ValueType
  | .constant c => c.type
  | .curve _ => .curve
  | .ramp _ => .ramp

/-- The default value of a slot type: zero constants, a curve without keys, the white ramp. -/
def zeroOf (t : ValueType) : SlotValue :=
  match t with
  | .curve => .curve {}
  | .ramp => .ramp Ramp.white
  | t => .constant ((Constant.zeroOf? t).getD (.float 0))

end SlotValue

/-- The slot types in the order hosts list them. -/
def slotTypes : List ValueType :=
  [.bool, .color, .float, .int, .vector2, .vector3, .vector4, .curve, .ramp]

namespace Kind

/-- What a kind exposes as a slot: type, slot name, whether it is listed, and its value. -/
def slot? : Kind → Option (String × Bool × SlotValue)
  | .value n e _ c => some (n, e, .constant c)
  | .curve n e c => some (n, e, .curve c)
  | .ramp n e r => some (n, e, .ramp r)
  | .fallback c => some ("", false, .constant c)
  | _ => none

/-- The kind with its slot value replaced by one of the same type. -/
def writeSlot? (k : Kind) (v : SlotValue) : Option Kind :=
  match k, v with
  | .value n e io c, .constant c' => (c.replace c').map (.value n e io)
  | .fallback c, .constant c' => (c.replace c').map .fallback
  | .curve n e _, .curve c => some (.curve n e c)
  | .ramp n e _, .ramp r => some (.ramp n e r)
  | _, _ => none

/-- The host wiring of a kind: only value nodes can be wired. -/
def ioMode : Kind → IoMode
  | .value _ _ io _ => io
  | _ => .none

end Kind

namespace Graph

/-- The external slots of a graph: flagged nodes in arena order. -/
def collectSlots (g : Graph) : List Slot :=
  g.nodes.filterMap fun n =>
    match n.kind.slot? with
    | some (name, true, v) => some ⟨v.type, name, n.id⟩
    | _ => none

/-- The slots of one type. -/
def slotsOf (g : Graph) (t : ValueType) : List Slot := g.slots.filter (·.type == t)

/-- The node listed under a type and slot name. -/
def findSlot (g : Graph) (t : ValueType) (name : String) : Option NodeId :=
  ((g.slotsOf t).find? (·.name == name)).map (·.node)

/-- The slot value of a node, asked for as type `t`. -/
def slotValue? (g : Graph) (id : NodeId) (t : ValueType) : Except GraphError SlotValue :=
  match g.node? id with
  | none => .error (.nodeNotFound id)
  | some n =>
    match n.kind.slot? with
    | some (_, _, v) => if v.type = t then .ok v else .error (.wrongNodeKind id t)
    | none => .error (.wrongNodeKind id t)

/-- Writes the slot value of a node. -/
def writeSlot (g : Graph) (id : NodeId) (v : SlotValue) : Except GraphError Graph :=
  match g.node? id with
  | none => .error (.nodeNotFound id)
  | some n =>
    match n.kind.writeSlot? v with
    | some k => .ok (g.updateNode id fun n => { n with kind := k })
    | none => .error (.wrongNodeKind id v.type)

end Graph

/-- Lists of slot values by type, as a host keeps them. -/
structure SlotInputs where
  lists : List (ValueType × List SlotValue) := []
deriving Inhabited

namespace SlotInputs

/-- The values kept for a type. -/
def get (s : SlotInputs) (t : ValueType) : List SlotValue := ((s.lists.find? (·.1 == t)).map (·.2)).getD []

/-- The inputs with the values for a type replaced. -/
def put (s : SlotInputs) (t : ValueType) (vs : List SlotValue) : SlotInputs :=
  ⟨(t, vs) :: s.lists.filter (·.1 != t)⟩

/-- Brings the lists in step with the graph's slots: each list is cut to the number of slots of
its type, and missing entries are read from the slots' nodes (a default value when that fails). -/
def sync (s : SlotInputs) (g : Graph) : SlotInputs :=
  slotTypes.foldl (fun s t =>
    let slots := g.slotsOf t
    let kept := (s.get t).take slots.length
    let more := (slots.drop kept.length).map fun slot =>
      match g.slotValue? slot.node t with
      | .ok v => v
      | .error _ => SlotValue.zeroOf t
    s.put t (kept ++ more)) s

/-- Writes the values into the graph's slots, slot by slot and type by type, stopping at the first
refused write. -/
def apply (s : SlotInputs) (g : Graph) : Except GraphError Graph :=
  slotTypes.foldlM (fun g t =>
    ((g.slotsOf t).zip (s.get t)).foldlM (fun g (slot, v) => g.writeSlot slot.node v) g) g

end SlotInputs

end NodeGraph
