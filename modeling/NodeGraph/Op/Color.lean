import NodeGraph.Value.Basic

/-!
# Colour spaces

Conversions between RGB colours and hue, saturation and value. Hue is a fraction of a turn in
`[0, 1)`; nothing is clamped, so values above one and negative inputs pass through the formulas.
A colour whose largest channel or whose spread is not positive has hue and saturation zero.
-/

namespace NodeGraph

/-- The colour operation of an RGB/HSV node. -/
inductive HsvOp where
  | rgbToHsv
  | hsvToRgb
  | hsvValuesToRgb
deriving DecidableEq, Repr, Inhabited

namespace HsvOp

/-- All operations in their fixed order. -/
def all : List HsvOp := [rgbToHsv, hsvToRgb, hsvValuesToRgb]

/-- The operation at a position of the fixed order. -/
def ofIndex? (i : Nat) : Option HsvOp := all[i]?

/-- The position of an operation in the fixed order. -/
def index (op : HsvOp) : Nat := all.idxOf op

/-- The conversion's name. -/
def label : HsvOp → String
  | rgbToHsv => "RgbToHsv" | hsvToRgb => "HsvToRgb" | hsvValuesToRgb => "HsvValuesToRgb"

end HsvOp

namespace Color

open Number

/-- Hue, saturation and value of a colour. -/
def toHsv (c : Color) : Vec3 :=
  let mx := maxNum (maxNum c.r c.g) c.b
  let mn := minNum (minNum c.r c.g) c.b
  let delta := mx - mn
  if mx ≤ 0 || delta ≤ 0 then ⟨0, 0, maxNum mx 0⟩
  else
    let hue :=
      if c.r == mx then (c.g - c.b) / delta
      else if c.g == mx then 2 + (c.b - c.r) / delta
      else 4 + (c.r - c.g) / delta
    ⟨remEuclid (hue / 6) 1, delta / mx, mx⟩

/-- The opaque colour of a hue, saturation and value. -/
def ofHsv (h s v : Float32) : Color :=
  if s == 0 then ⟨v, v, v, 1⟩
  else
    let h6 := remEuclid h 1 * 6
    let sector := Binary.floor32 h6
    let f := h6 - sector
    let p := v * (1 - s)
    let q := v * (1 - s * f)
    let t := v * (1 - s * (1 - f))
    let (r, g, b) := match (toInt sector).toInt with
      | 0 => (v, t, p)
      | 1 => (q, v, p)
      | 2 => (p, v, t)
      | 3 => (p, q, v)
      | 4 => (t, p, v)
      | _ => (v, p, q)
    ⟨r, g, b, 1⟩

end Color

end NodeGraph
