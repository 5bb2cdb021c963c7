import NodeGraph.Field.Write

/-!
# Reading fields

A cursor walks a node's field list in order. Each read takes the next field, so a read that fails
on a field that exists still moves past it; a read past the end is a `missingField` error naming the
position, and `finish` reports fields left unread as `trailingFields`.

Composite fields are checked part by part, left to right, and the first bad part names the error:

* vectors and colours need exactly their number of comma-separated components, each a float;
* a curve needs its two wrap modes and then keys of exactly five numbers;
* a ramp needs exactly three `;`-separated parts; its colour keys are read first, then its alpha
  keys (empty keys are skipped), and its mode last.
-/

namespace NodeGraph

/-- An enumeration stored as its number, with the name its errors use. -/
structure Enumeration (α : Type) where
  name : String
  ofIndex? : Int → Option α

/-- An enumeration whose members are numbered from zero. -/
def Enumeration.ofNat {α : Type} (name : String) (f : Nat → Option α) : Enumeration α :=
  ⟨name, fun i => if i < 0 then none else f i.toNat⟩

/-- Wrap modes in field text. -/
def WrapMode.enumeration : Enumeration WrapMode := ⟨"wrap mode", WrapMode.ofIndex?⟩

/-- Ramp modes in field text. -/
def RampMode.enumeration : Enumeration RampMode := ⟨"ramp mode", RampMode.ofIndex?⟩

namespace Field

/-- Reads an integer-coded enumeration member from a text. -/
def readEnum {α : Type} (e : Enumeration α) (node : NodeId) (text : String) :
    Except GraphError α := do
  let i ← Literal.readInt node text
  match e.ofIndex? i.toInt with
  | some v => pure v
  | none => throw (.invalidLiteral node e.name text)

/-- Reads `count` comma-separated floats, naming `expected` when the count is wrong. -/
def readComponents (node : NodeId) (count : Nat) (expected : String) (text : String) :
    Except GraphError (List Float32) :=
  go (Text.splitString ',' text) count
where
  /-- The floats of the remaining parts, one per remaining slot. -/
  go : List String → Nat → Except GraphError (List Float32)
    | [], 0 => pure []
    | _ :: _, 0 => throw (.invalidLiteral node expected text)
    | [], _ + 1 => throw (.invalidLiteral node expected text)
    | p :: ps, n + 1 => do
      let x ← Literal.readFloat node p
      let xs ← go ps n
      pure (x :: xs)

/-- Reads one curve key: exactly five numbers, the last an integer. -/
def readCurveKey (node : NodeId) (text : String) : Except GraphError CurveKey :=
  match Text.splitString ',' text with
  | [t, v, i, o, m] => do
    let t ← Literal.readFloat node t
    let v ← Literal.readFloat node v
    let i ← Literal.readFloat node i
    let o ← Literal.readFloat node o
    let m ← Literal.readInt node m
    pure { time := t, value := v, inTangent := i, outTangent := o, tangentMode := m }
  | _ => throw (.invalidLiteral node "curve key" text)

/-- Reads a curve field. -/
def readCurve (node : NodeId) (text : String) : Except GraphError Curve :=
  match Text.splitString ';' text with
  | pre :: post :: keys => do
    let pre ← readEnum WrapMode.enumeration node pre
    let post ← readEnum WrapMode.enumeration node post
    let keys ← keys.mapM (readCurveKey node)
    pure (Curve.ofKeys pre post keys)
  | _ => throw (.invalidLiteral node "curve" text)

/-- The non-empty keys of a `:`-separated key list. -/
def keyTexts (text : String) : List String := (Text.splitString ':' text).filter (· ≠ "")

/-- Reads a ramp field. -/
def readRamp (node : NodeId) (text : String) : Except GraphError Ramp :=
  match Text.splitString ';' text with
  | [mode, colors, alphas] => do
    let cs ← (keyTexts colors).mapM fun k => do
      let xs ← readComponents node 5 "color key" k
      pure (ColorKey.mk (xs.getD 0 0) (Vec4.ofList (xs.drop 1)))
    let as ← (keyTexts alphas).mapM fun k => do
      let xs ← readComponents node 2 "alpha key" k
      pure (AlphaKey.mk (xs.getD 0 0) (xs.getD 1 0))
    let mode ← readEnum RampMode.enumeration node mode
    pure (Ramp.make mode cs as)
  | _ => throw (.invalidLiteral node "ramp" text)

end Field

/-- A position in the field list of a node. -/
structure Cursor where
  node : NodeId
  fields : List String
  pos : Nat := 0

/-- Reading fields in order; a failed read keeps the cursor where it got to. -/
abbrev FieldRead := EStateM GraphError Cursor

namespace Cursor

/-- The next field. -/
def next : FieldRead String := fun c =>
  match c.fields[c.pos]? with
  | some f => .ok f { c with pos := c.pos + 1 }
  | none => .error (.missingField c.node c.pos) c

/-- The next field, read by a literal reader. -/
def read {α : Type} (f : NodeId → String → Except GraphError α) : FieldRead α := do
  let text ← next
  let c ← get
  match f c.node text with
  | .ok v => pure v
  | .error e => throw e

/-- Fails when fields are left unread. -/
def finish (c : Cursor) : Except GraphError Unit :=
  if c.pos < c.fields.length then .error (.trailingFields c.node (c.fields.length - c.pos))
  else .ok ()

/-- An integer field. -/
def int : FieldRead Int32 := read Literal.readInt

/-- A float field. -/
def float : FieldRead Float32 := read Literal.readFloat

/-- A flag field. -/
def bool : FieldRead Bool := read Literal.readBool

/-- A text field, as written. -/
def string : FieldRead String := next

/-- An enumeration field. -/
def enum {α : Type} (e : Enumeration α) : FieldRead α := read (Field.readEnum e)

/-- A field of `count` float components. -/
def floats (count : Nat) (expected : String) : FieldRead (List Float32) :=
  read fun node text => Field.readComponents node count expected text

/-- A curve field. -/
def curve : FieldRead Curve := read Field.readCurve

/-- A ramp field. -/
def ramp : FieldRead Ramp := read Field.readRamp

end Cursor

end NodeGraph
