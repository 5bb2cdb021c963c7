import NodeGraph.Node.Kind

/-!
# Settings as fields

Each kind writes its settings as a list of fields in a fixed order and reads them back in the
same order (`Kind.fields`, `Kind.readFields`). Reading assigns the settings one by one, so when a
field is bad the settings before it are already assigned and the ones after it keep their old
values. State kept between ticks is never written: a node read from fields starts with the state
it had.

Hidden default nodes write their constant as a payload instead, one part per component
(`Kind.payload?`, `Kind.readPayload`).
-/

namespace NodeGraph

/-- Math operations in field text. -/
def MathOp.enumeration : Enumeration MathOp := .ofNat "operation" MathOp.ofIndex?
/-- Unit conversions in field text. -/
def ConvertOp.enumeration : Enumeration ConvertOp := .ofNat "operation" ConvertOp.ofIndex?
/-- Vector operations in field text. -/
def VectorOp.enumeration : Enumeration VectorOp := .ofNat "operation" VectorOp.ofIndex?
/-- Quaternion operations in field text. -/
def QuaternionOp.enumeration : Enumeration QuaternionOp := .ofNat "operation" QuaternionOp.ofIndex?
/-- Constructed vector kinds in field text. -/
def VectorKind.enumeration : Enumeration VectorKind := .ofNat "vector type" VectorKind.ofIndex?
/-- Colour conversions in field text. -/
def HsvOp.enumeration : Enumeration HsvOp := .ofNat "operation" HsvOp.ofIndex?
/-- Comparisons in field text. -/
def ConditionOp.enumeration : Enumeration ConditionOp := .ofNat "operation" ConditionOp.ofIndex?
/-- Boolean operations in field text. -/
def BoolOp.enumeration : Enumeration BoolOp := .ofNat "operation" BoolOp.ofIndex?
/-- Timer limit modes in field text. -/
def LimitMode.enumeration : Enumeration LimitMode := .ofNat "limit type" LimitMode.ofIndex?
/-- Random distributions in field text. -/
def RandomOp.enumeration : Enumeration RandomOp := .ofNat "operation" RandomOp.ofIndex?

/-- Reading fields into a kind: the cursor and the kind as assigned so far. -/
abbrev FieldFill := EStateM GraphError (Cursor × Kind)

namespace FieldFill

/-- Reads the next field; a failure keeps the kind as assigned so far. -/
def next {α : Type} (r : FieldRead α) : FieldFill α := fun (c, k) =>
  match r c with
  | .ok a c' => .ok a (c', k)
  | .error e c' => .error e (c', k)

/-- Records the kind with one more setting assigned. -/
def put (k : Kind) : FieldFill Unit := fun (c, _) => .ok () (c, k)

end FieldFill

namespace Kind

open FieldFill

/-- The settings of a kind as fields, in order. -/
def fields : Kind → List String
  | .value n e io c => [Field.string n, Field.bool e, Field.int io.index, c.field]
  | .curve n e c => [Field.string n, Field.bool e, Field.curve c]
  | .ramp n e r => [Field.string n, Field.bool e, Field.ramp r]
  | .math op => [Field.int op.index]
  | .convert op => [Field.int op.index]
  | .vectorMath op => [Field.int op.index]
  | .quaternion op => [Field.int op.index]
  | .vecConstructor k => [Field.int k.index]
  | .swizzle s => [Field.string s]
  | .colorHsv op => [Field.int op.index]
  | .condition op inv => [Field.int op.index, Field.bool inv]
  | .boolOperator op _ => [Field.int op.index]
  | .spring h d _ => [Field.float h, Field.float d]
  | .dozer f _ => [Field.bool f]
  | .timer s _ => [Field.int s.mode.index, Field.float s.speed, Field.float s.limit,
      Field.bool s.inverse, Field.bool s.toUnit]
  | .random op => [Field.int op.index]
  | .propertyInput a => [Field.string a]
  | .propertyOutput a => [Field.string a]
  | .fallback _ | .lerp | .vecModify | .branch | .delta _ | .perlin => []

/-- Reads the settings of a kind from fields, in the order `fields` writes them. -/
def readFields : Kind → FieldFill Unit
  | .value _ e io c => do
    let n ← next Cursor.string
    put (.value n e io c)
    let e ← next Cursor.bool
    put (.value n e io c)
    let io ← next (Cursor.enum IoMode.enumeration)
    put (.value n e io c)
    let c ← next (c.read)
    put (.value n e io c)
  | .curve _ e c => do
    let n ← next Cursor.string
    put (.curve n e c)
    let e ← next Cursor.bool
    put (.curve n e c)
    let c ← next Cursor.curve
    put (.curve n e c)
  | .ramp _ e r => do
    let n ← next Cursor.string
    put (.ramp n e r)
    let e ← next Cursor.bool
    put (.ramp n e r)
    let r ← next Cursor.ramp
    put (.ramp n e r)
  | .math _ => do put (.math (← next (Cursor.enum MathOp.enumeration)))
  | .convert _ => do put (.convert (← next (Cursor.enum ConvertOp.enumeration)))
  | .vectorMath _ => do put (.vectorMath (← next (Cursor.enum VectorOp.enumeration)))
  | .quaternion _ => do put (.quaternion (← next (Cursor.enum QuaternionOp.enumeration)))
  | .vecConstructor _ => do put (.vecConstructor (← next (Cursor.enum VectorKind.enumeration)))
  | .swizzle _ => do put (.swizzle (← next Cursor.string))
  | .colorHsv _ => do put (.colorHsv (← next (Cursor.enum HsvOp.enumeration)))
  | .condition _ inv => do
    let op ← next (Cursor.enum ConditionOp.enumeration)
    put (.condition op inv)
    let inv ← next Cursor.bool
    put (.condition op inv)
  | .boolOperator _ last => do put (.boolOperator (← next (Cursor.enum BoolOp.enumeration)) last)
  | .spring _ d m => do
    let h ← next Cursor.float
    put (.spring h d m)
    let d ← next Cursor.float
    put (.spring h d m)
  | .dozer _ held => do put (.dozer (← next Cursor.bool) held)
  | .timer s t => do
    let mode ← next (Cursor.enum LimitMode.enumeration)
    let s := { s with mode := mode }
    put (.timer s t)
    let speed ← next Cursor.float
    let s := { s with speed := speed }
    put (.timer s t)
    let limit ← next Cursor.float
    let s := { s with limit := limit }
    put (.timer s t)
    let inverse ← next Cursor.bool
    let s := { s with inverse := inverse }
    put (.timer s t)
    let toUnit ← next Cursor.bool
    put (.timer { s with toUnit := toUnit } t)
  | .random _ => do put (.random (← next (Cursor.enum RandomOp.enumeration)))
  | .propertyInput _ => do put (.propertyInput (← next Cursor.string))
  | .propertyOutput _ => do put (.propertyOutput (← next Cursor.string))
  | .fallback _ | .lerp | .vecModify | .branch | .delta _ | .perlin => pure ()

/-- Reads fields into a kind for node `node`: the kind as far as it was assigned, the cursor where
reading stopped, and the error that stopped it. -/
def fill (k : Kind) (node : NodeId) (fs : List String) : Kind × Cursor × Option GraphError :=
  match k.readFields ({ node := node, fields := fs }, k) with
  | .ok () (c, k') => (k', c, none)
  | .error e (c, k') => (k', c, some e)

/-- The payload a hidden default node writes in place of fields. -/
def payload? : Kind → Option (List String)
  | .fallback c => some c.parts
  | _ => none

/-- Reads the payload parts of a hidden default node. -/
def readPayload (k : Kind) (node : NodeId) (parts : List String) : Except GraphError Kind :=
  match k with
  | .fallback c => Kind.fallback <$> c.ofParts node parts
  | k => pure k

end Kind

end NodeGraph
