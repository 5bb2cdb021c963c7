import NodeGraph.Value.Type

/-!
# Node ids and input links

Node ids are integers in three ranges: user nodes have ids from zero up, `-1` means "no node",
and hidden default nodes have ids below `-1`.

An input link records the node it reads from (`target`), the type the input declares, its name,
whether it must be connected for the node to run (`required`), whether hidden defaults may be
attached to it (`noDefaults`), and the default node last attached to it (`lastDefault`), so that
a default can be reused after the link is disconnected again.
-/

namespace NodeGraph

/-- The id of a node. -/
abbrev NodeId := Int

/-- The id that refers to no node. -/
def noNode : NodeId := -1

/-- Ids of hidden default nodes lie below `-1`. -/
def isDefaultId (id : NodeId) : Bool := id < -1

/-- Ids of user nodes are zero or more. -/
def isUserId (id : NodeId) : Bool := -1 < id

/-- How an input is declared: whether it must be connected and whether defaults may fill it. -/
structure LinkSettings where
  required : Bool
  noDefaults : Bool

namespace LinkSettings

/-- Optional, fillable by a default. -/
def optional : LinkSettings := ⟨false, false⟩
/-- Required, fillable by a default. -/
def needed : LinkSettings := ⟨true, false⟩
/-- Optional, never filled by a default. -/
def bare : LinkSettings := ⟨false, true⟩
/-- Required and never filled by a default: it must be wired by the user. -/
def wired : LinkSettings := ⟨true, true⟩

end LinkSettings

/-- An input of a node. -/
structure Link where
  target : NodeId := noNode
  valueType : ValueType := .none
  name : String := ""
  required : Bool := false
  noDefaults : Bool := false
  lastDefault : NodeId := noNode
deriving Inhabited, DecidableEq, Repr

namespace Link

/-- Sets the declared type, name and settings, keeping the target and the last default. -/
def declare (l : Link) (t : ValueType) (name : String) (s : LinkSettings) : Link :=
  { l with valueType := t, name := name, required := s.required, noDefaults := s.noDefaults }

/-- The link reads from a user node. -/
def isConnected (l : Link) : Bool := isUserId l.target

/-- The link reads from some node, user or default. -/
def hasSource (l : Link) : Bool := l.target != noNode

/-- The link with its target cleared. -/
def clear (l : Link) : Link := { l with target := noNode }

@[simp] theorem declare_target (l : Link) (t : ValueType) (n : String) (s : LinkSettings) :
    (l.declare t n s).target = l.target := rfl

@[simp] theorem declare_lastDefault (l : Link) (t : ValueType) (n : String) (s : LinkSettings) :
    (l.declare t n s).lastDefault = l.lastDefault := rfl

end Link

/-- Inputs cut or padded with fresh links to a given count. -/
def resizeInputs (inputs : List Link) (n : Nat) : List Link :=
  inputs.take n ++ List.replicate (n - inputs.length) ({} : Link)

@[simp] theorem length_resizeInputs (inputs : List Link) (n : Nat) :
    (resizeInputs inputs n).length = n := by
  simp only [resizeInputs, List.length_append, List.length_take, List.length_replicate]
  omega

/-- Declares the inputs of a node from a layout: the list is resized to the layout and each link
takes its type, name and settings, keeping its target. -/
def declareAll (inputs : List Link) (layout : List (ValueType × String × LinkSettings)) :
    List Link :=
  (resizeInputs inputs layout.length).zipWith (fun l d => l.declare d.1 d.2.1 d.2.2) layout

end NodeGraph
