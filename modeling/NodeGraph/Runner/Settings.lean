import NodeGraph.Graph.Describe
import NodeGraph.Ron.Read
import NodeGraph.Ron.Write

/-!
# Runner settings

What the headless runner runs: the settings format version, the graph text file (relative to the
settings file), the number of ticks, the clock, extra log filter directives, and values to push
into the graph's slots before the first tick. Settings are stored as RON with the struct name
`RunnerSettings`; `version` and `graph` are required, the rest have defaults, unknown fields are
ignored, and a version newer than the supported one is refused.

Slot values are written as RON structs and tuples named as the host expects: `Color(r: ..)`,
`Vec2(x, y)`, `AnimationCurve(pre_wrap: .., post_wrap: .., keys: [CurveKey(..)])` and
`ColorRamp(mode: .., color_keys: [ColorKey(..)], alpha_keys: [AlphaKey(..)])`.
-/

namespace NodeGraph

/-- The clock settings name: the host's wall clock, or a fixed step as it was written, so that a
NaN step keeps its sign when the settings are written again. -/
inductive ClockSetting where
  | wall
  | fixed (dt : Ron.Real32)
deriving Inhabited

/-- The clock a graph runs on. -/
def ClockSetting.clock : ClockSetting → Clock
  | .wall => .wall
  | .fixed dt => .fixed dt.value

/-- The settings of a run. -/
structure Settings where
  version : Nat
  graph : String
  ticks : Nat := 1
  clock : ClockSetting := .wall
  logFilter : Option String := none
  inputs : Option SlotInputs := none
deriving Inhabited

namespace Settings

/-- The newest settings format version this library reads. -/
def formatVersion : Nat := 1

/-- The settings file read when none is named. -/
def fileName : String := "runner.ron"

/-- The settings used when there is no settings file: one tick of a sixtieth of a second on
`graph.txt`. -/
def standard : Settings :=
  { version := formatVersion, graph := "graph.txt", ticks := 1, clock := .fixed ⟨(1 : Float32) / 60, false⟩ }

end Settings

namespace Ron

/-- Reads an unsigned 32-bit integer. -/
def u32 : Read Nat := do return (← integer IntType.u32).toNat

/-- Reads a signed 32-bit integer. -/
def i32 : Read Int32 := do return Int32.ofInt (← integer IntType.i32)

/-- Reads a float and stores it. -/
def floatInto {σ : Type} (f : σ → Float32 → σ) (acc : σ) : Read σ := do return f acc (← float)

/-- Reads a colour. -/
def color : Read Color :=
  struct "Color" ["r", "g", "b", "a"] ["r", "g", "b", "a"] (fun k c =>
    floatInto (fun (c : Color) x => match k with
      | "r" => { c with r := x } | "g" => { c with g := x } | "b" => { c with b := x }
      | _ => { c with a := x }) c) Color.zero

/-- Reads a vector of `n` floats written as a named tuple. -/
def vector (name : String) (n : Nat) : Read Lanes := do
  return Vec4.ofList (← tuple (some name) n ("struct " ++ name) float)

/-- Reads a curve key. -/
def curveKey : Read CurveKey :=
  struct "CurveKey" ["time", "value", "in_tangent", "out_tangent", "tangent_mode"]
    ["time", "value", "in_tangent", "out_tangent", "tangent_mode"] (fun k key =>
      match k with
      | "time" => floatInto (fun (key : CurveKey) x => { key with time := x }) key
      | "value" => floatInto (fun (key : CurveKey) x => { key with value := x }) key
      | "in_tangent" => floatInto (fun (key : CurveKey) x => { key with inTangent := x }) key
      | "out_tangent" => floatInto (fun (key : CurveKey) x => { key with outTangent := x }) key
      | _ => do return { key with tangentMode := ← i32 }) { time := 0, value := 0 }

/-- Reads a wrap mode by name. -/
def wrapMode : Read WrapMode := do
  let v ← variant "WrapMode" ["Default", "Once", "Loop", "PingPong", "ClampForever"]
  return match v with
    | "Once" => .once | "Loop" => .loop | "PingPong" => .pingPong
    | "ClampForever" => .clampForever | _ => .clampDefault

/-- Reads a curve; its keys are kept in the order written. -/
def curve : Read Curve :=
  struct "AnimationCurve" ["pre_wrap", "post_wrap", "keys"] ["pre_wrap", "post_wrap", "keys"]
    (fun k c => match k with
      | "pre_wrap" => do return { c with pre := ← wrapMode }
      | "post_wrap" => do return { c with post := ← wrapMode }
      | _ => do return { c with keys := ← seq curveKey }) {}

/-- Reads a colour key. -/
def colorKey : Read ColorKey :=
  struct "ColorKey" ["time", "color"] ["time", "color"] (fun k key =>
    match k with
    | "time" => floatInto (fun (key : ColorKey) x => { key with time := x }) key
    | _ => do return { key with color := Vec4.ofList (← tuple none 4 "an array of length 4" float) })
    ⟨0, Vec4.zero⟩

/-- Reads an alpha key. -/
def alphaKey : Read AlphaKey :=
  struct "AlphaKey" ["time", "alpha"] ["time", "alpha"] (fun k key =>
    floatInto (fun (key : AlphaKey) x => if k = "time" then { key with time := x }
      else { key with alpha := x }) key) ⟨0, 0⟩

/-- Reads a ramp; its keys are kept in the order written. -/
def ramp : Read Ramp :=
  struct "ColorRamp" ["mode", "color_keys", "alpha_keys"] ["mode", "color_keys", "alpha_keys"]
    (fun k r => match k with
      | "mode" => do
        let m ← variant "RampMode" ["Blend", "Fixed"]
        return { r with mode := if m = "Fixed" then .fixed else .blend }
      | "color_keys" => do return { r with colorKeys := ← seq colorKey }
      | _ => do return { r with alphaKeys := ← seq alphaKey }) {}

/-- The RON field name of each slot type's list. -/
def slotField (t : ValueType) : String := SlotInputs.key t

/-- Reads one slot value of a type. -/
def slotValue (t : ValueType) : Read SlotValue :=
  match t with
  | .bool => do return .constant (.bool (← bool))
  | .color => do return .constant (.color (← color))
  | .float => do return .constant (.float (← float))
  | .int => do return .constant (.int (← i32))
  | .vector2 => do let v ← vector "Vec2" 2; return .constant (.vector2 ⟨v.x, v.y⟩)
  | .vector3 => do let v ← vector "Vec3" 3; return .constant (.vector3 ⟨v.x, v.y, v.z⟩)
  | .vector4 => do return .constant (.vector4 (← vector "Vec4" 4))
  | .curve => do return .curve (← curve)
  | _ => do return .ramp (← ramp)

/-- Reads the values to push into slots; every list is optional. -/
def slotInputs : Read SlotInputs :=
  struct "ExternalInputs" (slotTypes.map slotField) [] (fun k s =>
    match slotTypes.find? (slotField · = k) with
    | some t => do return s.put t (← seq (slotValue t))
    | none => pure s) ⟨slotTypes.map fun t => (t, [])⟩

/-- Reads a clock: `Wall` or `Fixed(dt: ..)`. -/
def clock : Read ClockSetting :=
  enum "Clock" ["Wall", "Fixed"] fun v =>
    if v = "Wall" then pure .wall
    else do
      let dt ← structBody "" (some "Fixed") ["dt"] ["dt"] (fun _ _ => do return some (← real32)) none
      return .fixed (dt.getD default)

/-- Settings as they are read, before the required fields are known to be there. -/
structure SettingsDraft where
  version : Nat := 0
  graph : String := ""
  ticks : Nat := 1
  clock : ClockSetting := .wall
  logFilter : Option String := none
  inputs : Option SlotInputs := none

/-- Reads runner settings. -/
def settings : Read Settings := do
  let d ← struct "RunnerSettings" ["version", "graph", "ticks", "clock", "log_filter", "inputs"]
    ["version", "graph"] (fun k (d : SettingsDraft) => match k with
      | "version" => do return { d with version := ← u32 }
      | "graph" => do return { d with graph := ← string }
      | "ticks" => do return { d with ticks := ← u32 }
      | "clock" => do return { d with clock := ← clock }
      | "log_filter" => do return { d with logFilter := ← option string }
      | _ => do return { d with inputs := ← option slotInputs }) {}
  return { version := d.version, graph := d.graph, ticks := d.ticks, clock := d.clock,
           logFilter := d.logFilter, inputs := d.inputs }

end Ron

namespace Settings

/-- Reads settings from RON text; the message says why they could not be read. -/
def ofRon (text : String) : Except String Settings :=
  match Ron.parse text Ron.settings with
  | .error e => .error (Ron.errorText e)
  | .ok s =>
    if formatVersion < s.version then
      .error ("Settings version " ++ toString s.version ++ " is newer than supported version " ++
        toString formatVersion)
    else .ok s

/-- A float as written. -/
def floatDoc (x : Float32) : Ron.Doc := .float x

/-- The RON value of a slot value. -/
def slotDoc : SlotValue → Ron.Doc
  | .constant c => match c.toValue with
    | .bool b => .bool b
    | .int i => .int i.toInt
    | .float x => .float x
    | .color c => .record "Color" [("r", .float c.r), ("g", .float c.g), ("b", .float c.b),
        ("a", .float c.a)]
    | .vector2 v => .tuple "Vec2" [.float v.x, .float v.y]
    | .vector3 v => .tuple "Vec3" [.float v.x, .float v.y, .float v.z]
    | .vector4 v => .tuple "Vec4" [.float v.x, .float v.y, .float v.z, .float v.w]
    | _ => .word "None"
  | .curve c => .record "AnimationCurve" [("pre_wrap", .word c.pre.label),
      ("post_wrap", .word c.post.label),
      ("keys", .seq (c.keys.map fun k => .record "CurveKey" [("time", .float k.time),
        ("value", .float k.value), ("in_tangent", .float k.inTangent),
        ("out_tangent", .float k.outTangent), ("tangent_mode", .int k.tangentMode.toInt)]))]
  | .ramp r => .record "ColorRamp" [("mode", .word r.mode.label),
      ("color_keys", .seq (r.colorKeys.map fun k => .record "ColorKey" [("time", .float k.time),
        ("color", .tuple "" (k.color.toList.map Ron.Doc.float))])),
      ("alpha_keys", .seq (r.alphaKeys.map fun k => .record "AlphaKey" [("time", .float k.time),
        ("alpha", .float k.alpha)]))]

/-- The RON value of slot inputs. -/
def inputsDoc (s : SlotInputs) : Ron.Doc :=
  .record "ExternalInputs" (slotTypes.map fun t => (Ron.slotField t, .seq ((s.get t).map slotDoc)))

/-- The RON value of settings: absent options are left out. -/
def doc (s : Settings) : Ron.Doc :=
  .record "RunnerSettings" ([("version", .int s.version), ("graph", .str s.graph),
    ("ticks", .int s.ticks),
    ("clock", match s.clock with
      | .wall => .word "Wall"
      | .fixed dt => .record "Fixed" [("dt", .float dt.value dt.nanNegative)])] ++
    (match s.logFilter with | some f => [("log_filter", .some (.str f))] | none => []) ++
    (match s.inputs with | some i => [("inputs", .some (inputsDoc i))] | none => []))

/-- The settings as pretty RON text. -/
def toRon (s : Settings) : String := s.doc.render 0

/-- Whether two floats are equal as numbers (NaN equals nothing). -/
def sameFloat (a b : Float32) : Bool := a == b

/-- Whether two slot values are equal, comparing floats as numbers. -/
def sameSlot : SlotValue → SlotValue → Bool
  | .constant a, .constant b =>
    a.type == b.type && match a.toValue, b.toValue with
      | .bool x, .bool y => x == y
      | .int x, .int y => x == y
      | _, _ => (a.components.zip b.components).all fun (x, y) => sameFloat x y
  | .curve a, .curve b =>
    a.pre.index == b.pre.index && a.post.index == b.post.index && a.keys.length == b.keys.length &&
      (a.keys.zip b.keys).all fun (x, y) => sameFloat x.time y.time && sameFloat x.value y.value &&
        sameFloat x.inTangent y.inTangent && sameFloat x.outTangent y.outTangent &&
        x.tangentMode == y.tangentMode
  | .ramp a, .ramp b =>
    a.mode.index == b.mode.index && a.colorKeys.length == b.colorKeys.length &&
      a.alphaKeys.length == b.alphaKeys.length &&
      (a.colorKeys.zip b.colorKeys).all (fun (x, y) => sameFloat x.time y.time &&
        (x.color.toList.zip y.color.toList).all fun (p, q) => sameFloat p q) &&
      (a.alphaKeys.zip b.alphaKeys).all fun (x, y) => sameFloat x.time y.time &&
        sameFloat x.alpha y.alpha
  | _, _ => false

/-- Whether two sets of slot inputs are equal. -/
def sameInputs (a b : SlotInputs) : Bool :=
  slotTypes.all fun t =>
    (a.get t).length == (b.get t).length && ((a.get t).zip (b.get t)).all fun (x, y) => sameSlot x y

/-- Whether two settings are equal. -/
def same (a b : Settings) : Bool :=
  a.version == b.version && a.graph == b.graph && a.ticks == b.ticks &&
    (match a.clock, b.clock with
      | .wall, .wall => true
      | .fixed x, .fixed y => sameFloat x.value y.value
      | _, _ => false) &&
    a.logFilter == b.logFilter &&
    (match a.inputs, b.inputs with
      | none, none => true
      | some x, some y => sameInputs x y
      | _, _ => false)

/-- The settings as a report. -/
def report (s : Settings) : Report :=
  .record [("version", .nat s.version), ("graph", .text s.graph), ("ticks", .nat s.ticks),
    ("clock", match s.clock with
      | .wall => .text "Wall"
      | .fixed dt => Report.single "Fixed" (Report.ofFloat dt.value)),
    ("log_filter", match s.logFilter with | some f => .text f | none => .null),
    ("inputs", match s.inputs with | some i => i.report | none => .null)]

end Settings

end NodeGraph
