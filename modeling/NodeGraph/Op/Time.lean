import NodeGraph.Curve.Interpolation

/-!
# Time-driven state

The per-tick updates of the nodes that keep state between ticks: the timer's elapsed time and its
limit modes, the damped spring, the delta of successive values, and the held value of a dozer.
Each is a function from the previous state and the tick's inputs to the next state and output.
-/

namespace NodeGraph

/-- How a timer treats times past its limit. -/
inductive LimitMode where
  | none | «repeat» | stayToStart | stayToEnd | pingPong | pingPongOnce
deriving DecidableEq, Repr, Inhabited

namespace LimitMode

/-- All modes in their fixed order. -/
def all : List LimitMode := [none, «repeat», stayToStart, stayToEnd, pingPong, pingPongOnce]

/-- The mode at a position of the fixed order. -/
def ofIndex? (i : Nat) : Option LimitMode := all[i]?

/-- The position of a mode in the fixed order. -/
def index (m : LimitMode) : Nat := all.idxOf m

/-- The mode's name. -/
def label : LimitMode → String
  | none => "None" | «repeat» => "Repeat" | stayToStart => "StayToStart"
  | stayToEnd => "StayToEnd" | pingPong => "PingPong" | pingPongOnce => "PingPongOnce"

/-- The time a timer shows: times up to the limit are kept; later ones go on, wrap, stop at an
end, or bounce. -/
def apply (m : LimitMode) (time limit : Float32) : Except Fault Float32 :=
  if time ≤ limit then .ok time
  else match m with
    | none => .ok time
    | «repeat» => Interpolation.repeat time limit
    | stayToStart => .ok 0
    | stayToEnd => .ok limit
    | pingPong => Interpolation.pingPong time limit
    | pingPongOnce => .ok (Number.maxNum (limit - (time - limit).abs) 0)

end LimitMode

/-- The settings of a timer. -/
structure TimerSettings where
  mode : LimitMode := .none
  speed : Float32 := 1
  limit : Float32 := 1
  inverse : Bool := false
  toUnit : Bool := false

/-- The value a timer shows for an elapsed time: the limited time, optionally counted down from
the limit and divided by it. -/
def TimerSettings.show (s : TimerSettings) (elapsed : Float32) : Except Fault Float32 := do
  let v ← s.mode.apply elapsed s.limit
  let v := if s.inverse then s.limit - v else v
  return if s.toUnit then v / s.limit else v

/-- One timer tick: the elapsed time grows by `dt * speed` and restarts at zero on reset; the
result is the new elapsed time and the value shown for it. -/
def TimerSettings.step (s : TimerSettings) (elapsed dt : Float32) (reset : Bool) :
    Except Fault (Float32 × Float32) := do
  let t := if reset then 0 else elapsed + dt * s.speed
  return (t, ← s.show t)

/-- The velocity and position lanes of a spring. -/
structure Motion where
  velocity : Lanes := Vec4.zero
  current : Lanes := Vec4.zero
deriving Inhabited

/-- How much of the velocity a spring keeps per unit of time: `1 / (1 + d⁵)`, with the damping
`d` at least the float epsilon. -/
def springFactor (damping : Float32) : Float32 :=
  1 / (1 + Number.pow5 (Number.maxNum damping Number.epsilon))

/-- One spring tick on the first `n` lanes: the input accelerates, the hardness pulls back
towards zero, the velocity decays, and the position moves by the velocity. -/
def Motion.step (m : Motion) (n : Nat) (input : Lanes) (hardness decay : Float32) : Motion :=
  let lane (c : Nat) (m : Motion) : Motion :=
    let v := m.velocity.get c + input.get c
    let v := v - m.current.get c * hardness
    let v := v * decay
    let p := m.current.get c + v
    { velocity := m.velocity.set c v, current := m.current.set c p }
  (List.range n).foldl (fun m c => lane c m) m

end NodeGraph
