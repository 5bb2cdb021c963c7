import NodeGraph.Graph.Io
import NodeGraph.Report
import NodeGraph.Node.Kind

/-!
# Describing graphs and the catalogue

Reports of the library's values and of a graph's structure, for a host to display or store:
curves and ramps, slot values with their types, nodes with their links, settings and slots, the
whole graph, compiled programs, the slot list and the host's slot inputs. Values read from the
running graph (slot values) are marked as samples; everything else describes structure.

The catalogue reports every registered kind in registration order, the menu, the kinds of each
category, and for each value type its classification and the kinds that serve it.
-/

namespace NodeGraph

namespace Report

/-- A curve: wrap modes by index and keys as `[time, value, in, out, mode]`. -/
def curve (c : Curve) : Report :=
  .record [("pre", .nat c.pre.index), ("post", .nat c.post.index),
    ("keys", .list (c.keys.map fun k =>
      .list [ofFloat k.time, ofFloat k.value, ofFloat k.inTangent, ofFloat k.outTangent,
        .int k.tangentMode.toInt]))]

/-- A ramp: mode by index, colour keys as `[time, r, g, b, a]`, alpha keys as `[time, alpha]`. -/
def ramp (r : Ramp) : Report :=
  .record [("mode", .nat r.mode.index),
    ("colors", .list (r.colorKeys.map fun k =>
      .list (ofFloat k.time :: k.color.toList.map ofFloat))),
    ("alphas", .list (r.alphaKeys.map fun k => .list [ofFloat k.time, ofFloat k.alpha]))]

end Report

namespace SlotValue

/-- The value alone. -/
def payload : SlotValue → Report
  | .constant c => Report.ofValue c.toValue
  | .curve c => Report.curve c
  | .ramp r => Report.ramp r

/-- The value with its type. -/
def report (v : SlotValue) : Report := Report.typed v.type v.payload

end SlotValue

namespace Link

/-- A link: target, declared type, name, flags and last default. -/
def report (l : Link) : Report :=
  .record [("target", .int l.target), ("type", .text l.valueType.name), ("name", .text l.name),
    ("required", .bool l.required), ("no_defaults", .bool l.noDefaults),
    ("last_default", .int l.lastDefault)]

end Link

namespace Node

/-- A node: identity, kind, position, cached type, links, fields (or the payload of a hidden
default) and, for nodes holding a slot value, the slot. -/
def report (n : Node) : Report :=
  let fields := match n.kind.payload? with
    | some parts => Report.single "custom" (.text ("|".intercalate parts))
    | none => .list (n.kind.fields.map .text)
  let slot := match n.kind.slot? with
    | some (name, listed, v) =>
      [("external", Report.record [("name", .text name), ("use_as_external", .bool listed),
        ("type", .text v.type.name), ("io_mode", .text n.kind.ioMode.label),
        ("value", .sample v.report)])]
    | none => []
  .record ([("id", .int n.id), ("kind", .text n.kind.id), ("name", .text n.kind.name),
    ("pos", Report.floats [n.position.x, n.position.y]), ("type", .text n.type.name),
    ("controllable", .bool n.kind.controllable), ("is_default", .bool n.kind.isDefault),
    ("inputs", .list (n.inputs.map Link.report)), ("fields", fields)] ++ slot)

end Node

namespace Graph

/-- The slots by type, as `{name, node}` lists. -/
def slotsReport (g : Graph) : Report :=
  .record (slotTypes.map fun t =>
    (t.name, .list ((g.slotsOf t).map fun s =>
      Report.record [("name", .text s.name), ("node", .int s.node)])))

/-- The whole graph: nodes in arena order, outputs, dirty flag, tick, step and slots. -/
def report (g : Graph) : Report :=
  .record [("nodes", .list (g.nodes.map Node.report)), ("outputs", .list (g.outputs.map .int)),
    ("dirty", .bool g.dirty), ("tick", .nat g.tick), ("dt", Report.ofFloat g.dt),
    ("externals", g.slotsReport)]

/-- The cached output types in arena order. -/
def typesReport (g : Graph) : Report :=
  .list (g.nodes.map fun n => .list [.int n.id, .text n.type.name])

end Graph

namespace Program

/-- The stages reachable from a stage, each once; `fuel` bounds the depth. -/
def reachable (p : Program) : Nat → List Nat → List Nat → List Nat
  | 0, _, seen => seen
  | _, [], seen => seen
  | fuel + 1, i :: rest, seen =>
    if i ∈ seen then reachable p (fuel + 1) rest seen
    else
      let ins := ((p.stages[i]?).map fun s => s.inputs.filterMap id).getD []
      reachable p fuel (ins ++ rest) (seen ++ [i])
termination_by fuel stack => (fuel, stack.length)

/-- The stages reachable from a root, sorted by node id: node, output type, consumers, whether it
keeps results, and the nodes its inputs read. -/
def report (p : Program) (root : Nat) : Report :=
  let ids := p.reachable (p.stages.size + 1) [root] []
  let stages := (ids.filterMap fun i => p.stages[i]?).mergeSort fun a b => a.node ≤ b.node
  let nodeAt (i : Option Nat) : Report :=
    match i.bind fun i => p.stages[i]? with
    | some s => .int s.node
    | none => .null
  .record [("root", .int ((p.stages[root]?).map (·.node) |>.getD noNode)),
    ("processors", .list (stages.map fun s =>
      Report.record [("node", .int s.node), ("type", .text s.plan.output.name),
        ("consumers", .nat s.consumers), ("memoized", .bool s.memoize),
        ("inputs", .list (s.inputs.map nodeAt))]))]

end Program

namespace SlotInputs

/-- The key under which the values of a slot type are listed. -/
def key : ValueType → String
  | .bool => "bools" | .color => "colors" | .float => "floats" | .int => "ints"
  | .vector2 => "vector2s" | .vector3 => "vector3s" | .vector4 => "vector4s"
  | .curve => "curves" | .ramp => "ramps" | _ => ""

/-- The lists of values, one per slot type. -/
def report (s : SlotInputs) : Report :=
  .record (slotTypes.map fun t => (key t, .list ((s.get t).map fun v => .sample v.payload)))

end SlotInputs

end NodeGraph

namespace NodeGraph

namespace Kind

/-- One registered kind. -/
def entry (k : Kind) : Report :=
  .record [("id", .text k.id), ("category", .text k.category.label),
    ("menu", match k.menu with | some m => .text m | none => .null), ("name", .text k.name),
    ("output_type", .text k.declaredType.name), ("controllable", .bool k.controllable),
    ("is_default", .bool k.isDefault)]

/-- The registry: kinds, menu, and (when asked) the kinds of each category. -/
def catalog (withCategories : Bool) : Report :=
  let menu := registry.filterMap fun k => k.menu.map fun m => Report.list [.text m, .text k.id]
  let base := [("kinds", Report.list (registry.map entry)), ("menu", .list menu)]
  let cats := Category.all.map fun c => (c.label, Report.list ((idsIn c).map .text))
  .record (if withCategories then base ++ [("categories", .record cats)] else base)

end Kind

namespace ValueType

/-- A value type with its position, classification, components and default and host kinds. -/
def info (t : ValueType) : Report :=
  let kindOr (k : Option String) : Report := (k.map Report.text).getD .null
  .record [("type", .text t.name), ("index", .nat t.index), ("is_vector", .bool t.isVector),
    ("is_value", .bool t.isValue), ("is_value_except_int", .bool t.isValueExceptInt),
    ("is_float_or_int", .bool t.isFloatOrInt), ("components", .nat t.components),
    ("default_kind", kindOr (Kind.fallbackId? t)), ("io_kind", kindOr (Kind.ioId? t))]

end ValueType

end NodeGraph
