import NodeGraph.Runner.Log
import NodeGraph.Graph.Diagnostic
import NodeGraph.Graph.Host

/-!
# Running a graph from a settings file

The runner reads its settings (the file named by its first argument, `runner.ron` by default),
loads the graph file they name, applies the clock, prepares the graph, writes the settings' input
values into its external slots, processes the configured number of ticks, and logs every external
slot's value, type by type.

Every line the runner writes passes through the log filter: its own lines, and the events the
graph reports while it loads, prepares and ticks, in the order they happen. A settings file that
cannot be read or parsed is reported with the standard filter and ends the run with exit code 1;
a graph file that cannot be read or loaded, or inputs that cannot be applied, end it with exit
code 1 after the start line. A fault inside the graph stops the run with exit code 101 and its
message on the error stream.

The runner is written over any monad that can read a file and tell the time since the previous
tick, so the same run works on a real file system and clock and on a `FileSet`.
-/

namespace NodeGraph

/-- What a run printed and how it ended. -/
structure RunOutcome where
  exit : Nat
  stdout : List String
  stderr : List String
deriving Inhabited

/-- The lines a run has written so far, and the filter for the log lines. -/
structure RunLog where
  filter : LogFilter
  out : List String := []
  err : List String := []
deriving Inhabited

namespace RunLog

/-- Writes a log line of a target and fields when the filter lets it through. -/
def write (l : RunLog) (s : Severity) (target : String) (fields : List String) (text : String) :
    RunLog :=
  if l.filter.enabled target fields s then { l with out := l.out ++ [logLine s target text] } else l

/-- Writes a line of the runner's own, with the names of its fields besides the message. -/
def say (l : RunLog) (s : Severity) (fields : List String) (text : String) : RunLog :=
  l.write s LogFilter.runnerTarget ("message" :: fields) text

/-- Writes the lines of graph events. -/
def events (l : RunLog) (es : List Event) : RunLog :=
  es.foldl (fun l e => l.write e.severity e.target e.fields e.text) l

/-- The outcome of a run that ended with an exit code. -/
def finish (l : RunLog) (exit : Nat) : RunOutcome := ⟨exit, l.out, l.err⟩

end RunLog

/-- A stage of a run on a host monad `m`: it writes to the log and may stop the run with an exit
code. -/
abbrev RunM (m : Type → Type) := ExceptT Nat (StateT RunLog m)

namespace Runner

variable {m : Type → Type} [Monad m]

/-- The version the runner announces. -/
def version : String := "0.1.0"

/-- Writes a line of the runner's own, with the names of its fields besides the message. -/
def say (s : Severity) (fields : List String) (text : String) : RunM m Unit :=
  modify (·.say s fields text)

/-- Logs an error and stops the run with exit code 1. -/
def fail {α : Type} (text : String) : RunM m α := do
  say .error [] text
  throw 1

/-- Stops the run on a fault, with its message on the error stream and exit code 101. -/
def abort {α : Type} (f : Fault) : RunM m α := do
  modify fun l => { l with err := l.err ++
    ["thread 'main' panicked:", f.message,
     "note: run with `RUST_BACKTRACE=1` environment variable to display a backtrace"] }
  throw 101

/-- Runs a graph operation, logging the events it reports. -/
def onGraph {α : Type} (g : Graph) (op : GraphM α) : RunM m (α × Graph) :=
  match op.run g with
  | .error f => abort f
  | .ok (a, g) => do
    modify (·.events g.events)
    return (a, { g with events := [] })

/-- Processes a number of ticks, asking the host before each for its time since the previous one. -/
def tick (elapsed : m Float32) (g : Graph) : Nat → RunM m Graph
  | 0 => pure g
  | n + 1 => do
    let dt ← elapsed
    let ((), g) ← onGraph g (Graph.process dt)
    tick elapsed g n

/-- The line logged for an external slot. -/
def slotLine (t : ValueType) (name : String) (v : SlotValue) : String :=
  "External slot=" ++ name ++ " kind=" ++ t.name ++ " value=" ++ Diagnostic.slotValue v

/-- Logs the value of every external slot, type by type. -/
def logSlots (g : Graph) : RunM m Unit :=
  slotTypes.forM fun t => (g.slotsOf t).forM fun slot =>
    match g.slotValue? slot.node t with
    | .ok v => say .info ["slot", "kind", "value"] (slotLine t slot.name v)
    | .error _ => pure ()

/-- Loads, prepares, feeds and ticks the graph of a settings file, then logs its slots. -/
def runGraph (elapsed : m Float32) (s : Settings) (graphPath text : String) : RunM m Unit := do
  let g ← match Graph.ofText (Text.trimString text) with
    | .error f => abort f
    | .ok (.error e) => fail ("Runner failed: " ++ e.message)
    | .ok (.ok g) => pure g
  let ((), g) ← onGraph g (do modify (·.setClock s.clock.clock); Graph.prepare)
  say .info ["graph", "nodes", "outputs", "externals"] ("Loaded graph graph=" ++ graphPath ++ " nodes=" ++ toString g.nodes.length ++
    " outputs=" ++ toString g.outputs.length ++ " externals=" ++ toString g.slots.length)
  let g ← match s.inputs with
    | none => pure g
    | some inputs => match inputs.apply g with
      | .ok g => pure g
      | .error e => fail ("Runner failed: " ++ e.message)
  let g ← tick elapsed g s.ticks
  logSlots g

/-- The outcome of a stage run from a log. -/
def outcome (run : RunM m Unit) (l : RunLog) : m RunOutcome := do
  match ← (run.run).run l with
  | (.ok (), l) => return l.finish 0
  | (.error code, l) => return l.finish code

end Runner

/-- Runs the runner with its arguments, reading files with `read` and asking the host with
`elapsed` for its time in seconds since the previous tick. -/
def runRunner {m : Type → Type} [Monad m] (read : String → m (Except FileError String))
    (elapsed : m Float32) (args : List String) : m RunOutcome := do
  let path := args.head?.getD Settings.fileName
  let loaded ← match ← read path with
    | .error e => pure (.error e.message)
    | .ok text => pure (Settings.ofRon text)
  match loaded with
  | .error msg =>
    Runner.outcome (Runner.fail ("Failed to load " ++ path ++ ": " ++ msg))
      { filter := LogFilter.standard }
  | .ok s =>
    let (filter, warnings) := LogFilter.withExtra s.logFilter
    let log := RunLog.say { filter := filter, err := warnings } .info []
      ("Starting OrdoPlay graph runner v" ++ Runner.version)
    let graphPath := s.graphPath path
    match ← read graphPath with
    | .error e => Runner.outcome (Runner.fail ("Runner failed: " ++ e.message)) log
    | .ok text => Runner.outcome (Runner.runGraph elapsed s graphPath text) log

end NodeGraph
