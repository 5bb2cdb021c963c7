import NodeGraph.Curve.Interpolation
import NodeGraph.Curve.Search

/-!
# Colour ramps

A ramp holds colour keys and alpha keys, each list sorted by time (in the total order of floats,
stably), and a mode: blend linearly between neighbouring keys, or hold the later key's value.
Sampling before the first key or after the last gives that key; a ramp without colour keys is
white and one without alpha keys is opaque. A NaN time passes both end tests and finds no key
before it, which is a fault.
-/

namespace NodeGraph

/-- How a ramp fills the space between keys. -/
inductive RampMode where
  | blend
  | fixed
deriving DecidableEq, Repr, Inhabited

namespace RampMode

/-- The number a mode is stored as. -/
def index : RampMode → Nat
  | blend => 0
  | fixed => 1

/-- The mode stored as a number. -/
def ofIndex? : Int → Option RampMode
  | 0 => some blend
  | 1 => some fixed
  | _ => none

/-- The name of a mode. -/
def label : RampMode → String
  | blend => "Blend"
  | fixed => "Fixed"

theorem ofIndex?_index (m : RampMode) : ofIndex? m.index = some m := by cases m <;> rfl

end RampMode

/-- A colour key. -/
structure ColorKey where
  time : Float32
  color : Vec4
deriving Inhabited

/-- An alpha key. -/
structure AlphaKey where
  time : Float32
  alpha : Float32
deriving Inhabited

/-- The position of a float in the total order of floats: negative floats by reversed
magnitude, then positive ones, with NaNs at both ends by sign. -/
def totalKey (x : Float32) : Int :=
  let b := x.toBits.toNat
  if b < 2 ^ 31 then b else -((b - 2 ^ 31 : Nat) : Int) - 1

/-- A colour ramp. -/
structure Ramp where
  mode : RampMode := .blend
  colorKeys : List ColorKey := []
  alphaKeys : List AlphaKey := []

namespace Ramp

/-- A ramp with both key lists sorted stably by time. -/
def make (mode : RampMode) (cs : List ColorKey) (as : List AlphaKey) : Ramp :=
  { mode := mode
    colorKeys := cs.mergeSort (fun a b => decide (totalKey a.time ≤ totalKey b.time))
    alphaKeys := as.mergeSort (fun a b => decide (totalKey a.time ≤ totalKey b.time)) }

/-- The white, opaque ramp with keys at 0 and 1. -/
def white : Ramp :=
  make .blend [⟨0, ⟨1, 1, 1, 1⟩⟩, ⟨1, ⟨1, 1, 1, 1⟩⟩] [⟨0, 1⟩, ⟨1, 1⟩]

instance : Inhabited Ramp := ⟨white⟩

/-- Samples keys of times `time` and values `value` at a time, if there are keys. -/
def sample {κ : Type} (keys : List κ) (pos : Float32) (mode : RampMode) (time : κ → Float32)
    (value : κ → Vec4) : Except Fault (Option Vec4) :=
  match keys.head?, keys.getLast? with
  | some first, some last =>
    if pos ≤ time first then .ok (some (value first))
    else if time last ≤ pos then .ok (some (value last))
    else
      let next := Search.partitionPoint (fun k => time k < pos) keys
      if next = 0 then .error (.overflow .subtract)
      else
        match keys[next - 1]?, keys[next]? with
        | some a, some b =>
          match mode with
          | .fixed => .ok (some (value b))
          | .blend =>
            let span := time b - time a
            if span ≤ 0 then .ok (some (value b))
            else .ok (some (Interpolation.lerp4 (value a) (value b) ((pos - time a) / span)))
        | _, _ => .ok (some (value last))
  | _, _ => .ok none

/-- The colour of a ramp at a time: red, green and blue from the colour keys, alpha from the
alpha keys. -/
def evaluate (r : Ramp) (t : Float32) : Except Fault Vec4 := do
  let rgb ← sample r.colorKeys t r.mode (·.time) (·.color)
  let alpha ← sample r.alphaKeys t r.mode (·.time) (fun k => ⟨k.alpha, k.alpha, k.alpha, k.alpha⟩)
  let rgb := rgb.getD ⟨1, 1, 1, 1⟩
  let a := match alpha with
    | some v => v.x
    | none => 1
  return ⟨rgb.x, rgb.y, rgb.z, a⟩

end Ramp

end NodeGraph
