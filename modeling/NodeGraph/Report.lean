import NodeGraph.Decimal.Layout
import NodeGraph.Value.Basic

/-!
# Structured reports

A report is a small document tree (null, booleans, integers, decimal numbers, text, lists and
records with named fields) in which the library describes its values, nodes and graphs for a
host to display or store. Floats appear as their shortest decimal, or as the texts `NaN`, `inf`,
`-inf`. A `sample` marks a value that was read from the running graph rather than from its
structure, so a host can tell the two apart.
-/

namespace NodeGraph

/-- A structured description. -/
inductive Report where
  | null
  | bool (b : Bool)
  | int (i : Int)
  /-- a decimal `± digits * 10 ^ exp` -/
  | number (negative : Bool) (d : Decimal.Dec)
  | text (s : String)
  | list (items : List Report)
  | record (fields : List (String × Report))
  /-- a value read from the running graph -/
  | sample (r : Report)
deriving Inhabited

namespace Report

/-- The report of a binary32 value: its shortest decimal, or a text for NaN and the
infinities. -/
def ofFloat (x : Float32) : Report :=
  let v := Binary.decode32 x
  match v.magnitude with
  | .nan => .text "NaN"
  | .infinite => .text (if v.negative then "-inf" else "inf")
  | .finite f =>
    let d := Decimal.shortest f
    .number (v.negative && d.digits != 0) d

/-- The report of a natural number. -/
def nat (n : Nat) : Report := .int n

/-- A record with one field. -/
def single (k : String) (v : Report) : Report := .record [(k, v)]

/-- The acknowledgement of a step that has nothing else to report. -/
def ok : Report := single "ok" (.bool true)

/-- A list of floats. -/
def floats (xs : List Float32) : Report := .list (xs.map ofFloat)

/-- The report of a value: floats and integers as numbers, vectors and colours as lists of
floats, handles as integers. -/
def ofValue : Value → Report
  | .float v => ofFloat v
  | .int v => .int v.toInt
  | .bool v => .bool v
  | .vector2 v => floats [v.x, v.y]
  | .vector3 v => floats [v.x, v.y, v.z]
  | .vector4 v => floats [v.x, v.y, v.z, v.w]
  | .color c => floats [c.r, c.g, c.b, c.a]
  | .texture h => .int h.toNat
  | .mesh h => .int h.toNat

/-- A value together with its type name. -/
def typed (t : ValueType) (v : Report) : Report :=
  .record [("type", .text t.name), ("value", v)]

end Report

end NodeGraph
