import NodeGraph.Graph.Duplicate

/-!
# Graph text

A graph is written as records joined by `#`, one per node in arena order; the parts of a record are
joined by `|`. A user node is `kind|id|cx cy|ids|fields...`: its position in grid cells of 16
(rounded half away from zero), the targets of its inputs joined by spaces, then its fields. A hidden
default node is `kind|id|parts...` with the parts of its value, and is written only while some link
reads from it.

Loading reads every record before replacing anything, so a bad text leaves the graph as it was.
A record needs a kind and an id read exactly as a 32-bit integer, a registered kind, and (for user
nodes) a position of exactly two integer cells and a list of targets. After loading, the next user
id follows the largest user id and the next default id lies below the smallest default id.
-/

namespace NodeGraph

namespace Graph

/-- The grid cell size of positions in the text. -/
def gridStep : Float32 := 16

/-- The grid cell of a coordinate. -/
def cellOf (p : Float32) : Int := (Number.toInt (Binary.roundAway32 (p / gridStep))).toInt

/-- The record of a node. -/
def encodeNode (n : Node) : String :=
  let head := n.kind.id ++ "|" ++ toString n.id ++ "|"
  match n.kind.payload? with
  | some parts => head ++ "|".intercalate parts
  | none =>
    head ++ toString (cellOf n.position.x) ++ " " ++ toString (cellOf n.position.y) ++ "|" ++
      " ".intercalate (n.inputs.map fun l => toString l.target) ++
      String.join (n.kind.fields.map ("|" ++ ·))

/-- The text of a graph: every node but the hidden defaults no link reads from. -/
def toText (g : Graph) : String :=
  let used := g.usedFallbacks
  "#".intercalate ((g.nodes.filter fun n => !n.kind.isDefault || used.contains n.id).map encodeNode)

/-- Reads an integer exactly as written, without surrounding blanks. -/
def readExactInt (text : String) : Option Int := (Decimal.readInt32 text.toList).map (·.toInt)

/-- Reads a position of exactly two integer cells separated by one space. -/
def readPosition (record text : String) : Except GraphError Vec2 :=
  match (Text.splitString ' ' text).map readExactInt with
  | [some x, some y] =>
    .ok ⟨Number.ofInt (Int32.ofInt x) * gridStep, Number.ofInt (Int32.ofInt y) * gridStep⟩
  | _ => .error (.malformedRecord record)

/-- Reads the input targets of a record: integers separated by spaces, empty pieces skipped. -/
def readTargets (record text : String) : Except GraphError (List NodeId) :=
  ((Text.splitString ' ' text).filter (· ≠ "")).mapM fun s =>
    match readExactInt s with
    | some t => .ok t
    | none => .error (.malformedRecord record)

/-- The inputs with targets set in order, each default target also remembered as the input's last
default; inputs are added when there are more targets than inputs. -/
def setTargets (inputs : List Link) (targets : List NodeId) : List Link :=
  let inputs := if inputs.length < targets.length then resizeInputs inputs targets.length else inputs
  let set (l : Link) (t : NodeId) : Link :=
    if isDefaultId t then { l with target := t, lastDefault := t } else { l with target := t }
  (inputs.zip targets).map (fun (l, t) => set l t) ++ inputs.drop targets.length

/-- Reads one record into a node. -/
def decodeNode (record : String) : Except GraphError Node := do
  match Text.splitString '|' record with
  | kindId :: idText :: payload =>
    let some id := readExactInt idText | throw (.malformedRecord record)
    let some k := Kind.create? kindId | throw (.unknownKind kindId)
    let n := Node.new id k
    if k.payload?.isSome then
      let k ← k.readPayload id payload
      return Node.configure { n with kind := k }
    match payload with
    | position :: ids :: fields =>
      let p ← readPosition record position
      let (k, cursor, err) := k.fill id fields
      if let some e := err then throw e
      cursor.finish
      let n := Node.configure { n with position := p, kind := k }
      let targets ← readTargets record ids
      return { n with inputs := setTargets n.inputs targets }
    | _ => throw (.malformedRecord record)
  | _ => throw (.malformedRecord record)

/-- Reads the records of a text in order, refusing an id seen before. -/
def decodeNodes : List String → List Node → Except GraphError (List Node)
  | [], acc => .ok acc
  | r :: rs, acc => do
    let n ← decodeNode r
    if acc.any (·.id == n.id) then throw (.duplicateId n.id)
    decodeNodes rs (acc ++ [n])

/-- The user id after the largest user id among some ids, or 1 when there is none. -/
def nextUserId (ids : List NodeId) : Except Fault Int :=
  match (ids.filter isUserId).max? with
  | some m => idAdd m 1
  | none => pure 1

/-- The default id below the smallest default id among some ids, or -2 when there is none. -/
def nextDefaultId (ids : List NodeId) : Except Fault Int :=
  match (ids.filter isDefaultId).min? with
  | some m => idSub m 1
  | none => pure (-2)

/-- Replaces every node by the nodes of a text; the graph is unchanged when the text is bad. -/
def loadText (text : String) : GraphM (Except GraphError Unit) := do
  let records := if text.isEmpty then [] else Text.splitString '#' text
  match decodeNodes records [] with
  | .error e => return .error e
  | .ok nodes =>
    let next ← StateT.lift (nextUserId (nodes.map (·.id)))
    let nextFallback ← StateT.lift (nextDefaultId (nodes.map (·.id)))
    modify fun g =>
      ({ g with nextId := max next 1, nextFallbackId := min nextFallback (-2) }.emit
        (.textLoaded nodes.length))
    modify fun g =>
      { g with nodes := nodes, outputs := [], program := {}, roots := [], slots := [],
               dirty := true }
    return .ok ()

/-- A graph read from a text. -/
def ofText (text : String) : Except Fault (Except GraphError Graph) := do
  let (r, g) ← (loadText text).run {}
  return r.map fun () => g

end Graph

end NodeGraph
