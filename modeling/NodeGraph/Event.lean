import NodeGraph.Link

/-!
# Events

Things a graph reports while it works, for a host to log: text loaded, defaults created, the sink
list rebuilt, an output that failed to compile, a tick processed, a required input without a
compiled source, an undeclared host node discarded, and a property write refused. Each event
has a severity and the part of the graph that raised it.
-/

namespace NodeGraph

/-- How much an event matters, from least to most. -/
inductive Severity where
  | trace | debug | info | warn | error
deriving DecidableEq, Repr, Inhabited

namespace Severity

/-- The rank of a severity, `0` for trace up to `4` for error. -/
def rank : Severity → Nat
  | trace => 0 | debug => 1 | info => 2 | warn => 3 | error => 4

/-- The upper-case name of a severity. -/
def label : Severity → String
  | trace => "TRACE" | debug => "DEBUG" | info => "INFO" | warn => "WARN" | error => "ERROR"

end Severity

/-- Something a graph reports. -/
inductive Event where
  /-- a graph text with this many nodes was loaded -/
  | textLoaded (nodes : Nat)
  /-- a hidden default node of a kind was created -/
  | fallbackCreated (node : NodeId) (kind : String)
  /-- the sink list of the named graph was rebuilt -/
  | sinksRebuilt (graph : String) (nodes sinks outputs : Nat)
  /-- an output of the named graph could not be compiled -/
  | outputFailed (graph : String) (node : NodeId)
  /-- a tick was processed with this step and number of compiled outputs -/
  | ticked (tick : Nat) (dt : Float32) (outputs : Nat)
  /-- a required input of a node has no compiled source -/
  | inputMissing (node : NodeId) (input : Nat)
  /-- a host-wired node that was not declared again was removed -/
  | ioDiscarded (node : NodeId) (name : String)
  /-- a property refused a written value -/
  | writeRejected (address : String)
deriving Inhabited

namespace Event

/-- The severity of an event. -/
def severity : Event → Severity
  | .ticked .. => .trace
  | .outputFailed .. | .ioDiscarded .. | .writeRejected _ => .warn
  | _ => .debug

end Event

end NodeGraph
