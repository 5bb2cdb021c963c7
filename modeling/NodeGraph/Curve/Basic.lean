import NodeGraph.Curve.Interpolation
import NodeGraph.Curve.Search

/-!
# Animation curves

A curve is a list of keys (time, value, incoming and outgoing tangent, tangent mode) kept in
order of time, and a wrap mode for times before the first key and after the last. A key is
inserted after every key whose time is at most its own, so keys of equal time stay in the order
they were added.

Sampling clamps, repeats or ping-pongs the time into the keys' span, finds the two keys around it
and blends them with the cubic Hermite polynomial; an infinite tangent makes the segment a step.
-/

namespace NodeGraph

/-- How a curve continues outside its keys. -/
inductive WrapMode where
  | clampDefault
  | once
  | loop
  | pingPong
  | clampForever
deriving DecidableEq, Repr, Inhabited

namespace WrapMode

/-- The number a wrap mode is stored as. -/
def index : WrapMode → Nat
  | clampDefault => 0
  | once => 1
  | loop => 2
  | pingPong => 4
  | clampForever => 8

/-- The wrap mode stored as a number. -/
def ofIndex? : Int → Option WrapMode
  | 0 => some clampDefault
  | 1 => some once
  | 2 => some loop
  | 4 => some pingPong
  | 8 => some clampForever
  | _ => none

/-- The name of a wrap mode. -/
def label : WrapMode → String
  | clampDefault => "Default"
  | once => "Once"
  | loop => "Loop"
  | pingPong => "PingPong"
  | clampForever => "ClampForever"

theorem ofIndex?_index (m : WrapMode) : ofIndex? m.index = some m := by cases m <;> rfl

end WrapMode

/-- A key of a curve. -/
structure CurveKey where
  time : Float32
  value : Float32
  inTangent : Float32 := 0
  outTangent : Float32 := 0
  tangentMode : Int32 := 0
deriving Inhabited

/-- A curve: wrap modes and keys in order of time. -/
structure Curve where
  pre : WrapMode := .clampDefault
  post : WrapMode := .clampDefault
  keys : List CurveKey := []
deriving Inhabited

namespace Curve

/-- The curve with a key added after every key whose time is at most the new key's time. -/
def addKey (c : Curve) (k : CurveKey) : Curve :=
  let i := Search.partitionPoint (fun x => x.time ≤ k.time) c.keys
  { c with keys := c.keys.take i ++ k :: c.keys.drop i }

/-- A curve from keys added one after another. -/
def ofKeys (pre post : WrapMode) (ks : List CurveKey) : Curve :=
  ks.foldl addKey { pre := pre, post := post }

/-- The straight segment between two points, with matching tangents. -/
def linear (t0 v0 t1 v1 : Float32) : Curve :=
  let slope := if t1 == t0 then 0 else (v1 - v0) / (t1 - t0)
  ofKeys .clampDefault .clampDefault
    [{ time := t0, value := v0, inTangent := slope, outTangent := slope },
     { time := t1, value := v1, inTangent := slope, outTangent := slope }]

/-- A flat curve between two times. -/
def constant (t0 t1 value : Float32) : Curve :=
  ofKeys .clampDefault .clampDefault [{ time := t0, value := value }, { time := t1, value := value }]

/-- The time between the first and the last key; zero without keys. -/
def duration (c : Curve) : Float32 :=
  match c.keys.head?, c.keys.getLast? with
  | some a, some b => b.time - a.time
  | _, _ => 0

/-- The curve without keys. -/
def clear (c : Curve) : Curve := { c with keys := [] }

/-- The two keys around a time: the pair at the partition point of keys before it, clamped to
the positions `1` to `length - 1`; with fewer than two keys those bounds are out of order. -/
def around (keys : List CurveKey) (time : Float32) : Except Fault (CurveKey × CurveKey) :=
  let next := Search.partitionPoint (fun k => k.time < time) keys
  if keys.length = 0 then .error (.overflow .subtract)
  else if keys.length - 1 < 1 then .error (.indexBounds 1 (keys.length - 1))
  else
    let next := min (max next 1) (keys.length - 1)
    .ok (keys.getD (next - 1) default, keys.getD next default)

/-- The value of a curve at a time. -/
def evaluate (c : Curve) (time : Float32) : Except Fault Float32 := do
  match c.keys.head?, c.keys.getLast? with
  | some first, some last =>
    let span := last.time - first.time
    if span ≤ 0 then return first.value
    let mode :=
      if time < first.time then c.pre
      else if last.time < time then c.post
      else .clampDefault
    let time ← match mode with
      | .loop => do
        let r ← Interpolation.repeat (time - first.time) span
        pure (first.time + r)
      | .pingPong => do
        let r ← Interpolation.pingPong (time - first.time) span
        pure (first.time + r)
      | _ => Number.clamp time first.time last.time
    let (a, b) ← around c.keys time
    let dt := b.time - a.time
    if dt ≤ 0 then return b.value
    if !a.outTangent.isFinite || !b.inTangent.isFinite then return a.value
    let t := (time - a.time) / dt
    return Interpolation.hermite a.value (a.outTangent * dt) b.value (b.inTangent * dt) t
  | _, _ => return 0

theorem length_addKey (c : Curve) (k : CurveKey) :
    (c.addKey k).keys.length = c.keys.length + 1 := by
  have := Search.partitionPoint_le (fun x : CurveKey => x.time ≤ k.time) c.keys
  simp only [addKey, List.length_append, List.length_take, List.length_cons, List.length_drop]
  omega

end Curve

end NodeGraph
