import NodeGraph.Runner.Files
import NodeGraph.Decimal.Read
import NodeGraph.Text.Alphabetic
import NodeGraph.Text.Pattern

/-!
# Log lines and filters

The runner writes one line per event, `LEVEL target: message key=value ...`, for the events a
filter lets through. A filter is a list of directives `target=level`, most specific first: a
longer target before a shorter one, a target before none, and more required fields before fewer.
An event is shown when the first directive that applies to it (its target is a prefix of the
event's target, and the event has every field it names) allows the event's level; an event no
directive applies to is hidden. A directive for the same target and fields as an earlier one
replaces it.

A directive starts with a letter, a digit, an underscore or a bracket. It is written as a level
alone (a level word in any case, or a number from 0 to 5 with leading zeros), or as a target (the
text up to the first `[` or `=`) and/or a span part in brackets, optionally followed by `=` and a
level (where a number may also carry a `+`); a directive without a level, or with an empty one,
allows everything. A span part holds a span name and, optionally, field filters in braces that
end at the first closing brace, right before the closing bracket; a field filter is a name, or a
name and a value, which is a boolean, a number or a pattern. Field filters are read before the
closing bracket and the level are checked. A directive with a span part that names a span (even
an empty name) or a field value only applies inside spans, so it never applies to the runner's
events, which stand outside every span.

Each graph event has a fixed target, the names of its fields, and a message with those fields;
strings given as fields are quoted, and the step of a tick is written as a double-precision
number.
-/

namespace NodeGraph

/-- How much a filter lets through: nothing, or events up to a severity. -/
abbrev LevelFilter := Option Severity

/-- One filter directive. -/
structure Directive where
  /-- the prefix of the targets it applies to; every target when absent -/
  target : Option String
  level : LevelFilter
  /-- the fields an event must have for the directive to apply -/
  fields : List String := []
  /-- restricted to a span or to field values: never applies outside a span -/
  inSpan : Bool := false
deriving Inhabited, BEq

namespace Directive

/-- A level word, in any case. -/
def levelWord? (s : String) : Option LevelFilter :=
  match s.toLower with
  | "off" => some none
  | "error" => some (some .error)
  | "warn" => some (some .warn)
  | "info" => some (some .info)
  | "debug" => some (some .debug)
  | "trace" => some (some .trace)
  | _ => none

/-- A number as a level filter writes it: digits after an optional `+`. -/
def number? (s : String) : Option Nat :=
  let ds := match s.toList with
    | '+' :: rest => rest
    | cs => cs
  if !ds.isEmpty && ds.all Char.isDigit then some (Decimal.digitsValue ds) else none

/-- A level as a directive writes it: a number from 0 (off) to 5 (trace), or a level word. -/
def level? (s : String) : Option LevelFilter :=
  match number? s with
  | some 0 => some none
  | some 1 => some (some .error)
  | some 2 => some (some .warn)
  | some 3 => some (some .info)
  | some 4 => some (some .debug)
  | some 5 => some (some .trace)
  | _ => levelWord? s

/-- The characters a directive may start with: letters, digits, the underscore, and the bracket
of a span part. -/
def isDirectiveStart (c : Char) : Bool := Text.isAlphanumeric c || c = '_' || c = '['

/-- The message of a directive that cannot be read. -/
def invalid : String := "invalid filter directive"

/-- The message of a level that cannot be read. -/
def badLevel : String :=
  "error parsing level filter: expected one of \"off\", \"error\", \"warn\", \"info\", " ++
    "\"debug\", \"trace\", or a number 0-5"

/-- Whether a field value is a literal (a boolean or a number) rather than a pattern; every
integer is also a float literal. -/
def isLiteralValue (v : String) : Bool :=
  v == "true" || v == "false" || (Decimal.readLiteral v.toList).isSome

/-- Reads one field filter, `name` or `name=value`: the name and whether a value is given. A
value that is not a literal must be a pattern a matcher can be built from. -/
def field? (text : String) : Except String (String × Bool) :=
  match Text.splitString '=' text with
  | [name] => .ok (name, false)
  | name :: value :: _ =>
    if isLiteralValue value then .ok (name, true)
    else match Text.patternFault value with
      | none => .ok (name, true)
      | some .malformed => .error "invalid field filter: error building NFA"
      | some .wordBoundary =>
        .error ("invalid field filter: unsupported regex feature for DFAs: cannot build DFAs " ++
          "for regexes with Unicode word boundaries; switch to ASCII word boundaries, or " ++
          "heuristically enable Unicode word boundaries or use a different regex engine")
  | [] => .ok ("", false)

/-- Reads the span part of a directive after its opening bracket: a span name up to a brace or
the closing bracket, then optionally field filters, which run from the brace to the first
closing brace and must be followed by the closing bracket. The required field names, whether the
directive only applies inside spans (it names a span, even an empty one, or a field value), and
the text after the part. A field filter that cannot be read is reported before a missing
bracket. -/
def spanPart (cs : List Char) : Except String ((List String × Bool) × List Char) :=
  match cs.span fun c => c ≠ '\x7b' && c ≠ ']' with
  | (_, ']' :: after) => .ok (([], true), after)
  | (name, _ :: body) =>
    match body.span (· ≠ '\x7d') with
    | (inner, _ :: after) => do
      if inner.isEmpty then throw invalid
      let texts := (Text.splitOn ',' inner).filter (!·.isEmpty)
      let fields ← texts.mapM fun t => field? (String.ofList t)
      match after with
      | ']' :: rest => return ((fields.map (·.1), !name.isEmpty || fields.any (·.2)), rest)
      | _ => throw invalid
    | (_, []) => throw invalid
  | (_, []) => throw invalid

/-- Parses a directive: a level alone, or a target and/or a span part in brackets, optionally
followed by `=` and a level (every level when left out or empty). The message says why a text is
not a directive. -/
def parse (s : String) : Except String Directive := do
  match s.toList with
  | [] => throw invalid
  | c :: _ => if !isDirectiveStart c then throw invalid
  -- a directive cannot start with `+`, so a level alone is a word or digits
  if let some l := level? s then return { target := none, level := l }
  let (target, afterTarget) := s.toList.span fun c => c ≠ '[' && c ≠ '='
  let ((fields, inSpan), afterSpan) ← match afterTarget with
    | '[' :: more => spanPart more
    | cs => pure (([], false), cs)
  let levelText ← match afterSpan with
    | [] => pure []
    | '=' :: w => pure w
    | _ => throw invalid
  let level ← if levelText.isEmpty then pure (some .trace) else
    match level? (String.ofList levelText) with
    | some l => pure l
    | none => throw badLevel
  return { target := if target.isEmpty then none else some (String.ofList target), level := level,
           fields := fields, inSpan := inSpan }

/-- Whether a directive applies to an event of a target with fields. -/
def applies (d : Directive) (target : String) (fields : List String) : Bool :=
  !d.inSpan && (d.target.all fun t => t.isPrefixOf target) && d.fields.all (· ∈ fields)

/-- The order of optional targets: none first, then by text. -/
def targetLess : Option String → Option String → Bool
  | none, some _ => true
  | some a, some b => decide (a < b)
  | _, _ => false

/-- The order of field lists: by text, item after item, a prefix first. -/
def fieldsLess : List String → List String → Bool
  | [], _ :: _ => true
  | a :: as, b :: bs => if a = b then fieldsLess as bs else decide (a < b)
  | _, _ => false

/-- Whether `d` is tried before `e`: a longer target first, a target before none, then more
fields first; directives as specific as each other are ordered by target and fields, the larger
first. -/
def before (d e : Directive) : Bool :=
  let dl := d.target.map String.length
  let el := e.target.map String.length
  if dl != el then
    match dl, el with
    | some a, some b => b < a
    | some _, none => true
    | _, _ => false
  else if d.fields.length != e.fields.length then e.fields.length < d.fields.length
  else if d.target != e.target then targetLess e.target d.target
  else fieldsLess e.fields d.fields

end Directive

/-- A log filter: directives outside spans, most specific first. -/
structure LogFilter where
  directives : List Directive := []
deriving Inhabited

namespace LogFilter

/-- The filter with a directive added in its place, replacing one for the same target and fields;
a directive restricted to spans never applies to these events and is left out. -/
def add (f : LogFilter) (d : Directive) : LogFilter :=
  if d.inSpan then f
  else
    let others := f.directives.filter fun e => !(e.target == d.target && e.fields == d.fields)
    let (first, rest) := others.span fun e => e.before d
    ⟨first ++ d :: rest⟩

/-- Whether an event of a severity, target and fields is shown: the first directive that applies
decides, and none hides it. -/
def enabled (f : LogFilter) (target : String) (fields : List String) (s : Severity) : Bool :=
  match f.directives.find? (·.applies target fields) with
  | some d => match d.level with
    | some l => l.rank ≤ s.rank
    | none => false
  | none => false

/-- The target of the runner's own lines. -/
def runnerTarget : String := "ordoplay_graph_runner"

/-- The filter every run starts from: the runner's own lines from `info` on. -/
def standard : LogFilter := LogFilter.add {} { target := some runnerTarget, level := some .info }

/-- The standard filter with extra comma-separated directives, and a warning for each piece that
is not a directive. -/
def withExtra (extra : Option String) : LogFilter × List String :=
  match extra with
  | none => (standard, [])
  | some text =>
    (Text.splitString ',' text).foldl (fun (f, warnings) piece =>
      match Directive.parse (Text.trimString piece) with
      | .ok d => (f.add d, warnings)
      | .error msg => (f, warnings ++ ["Ignoring log filter directive " ++ quoted piece ++ ": " ++ msg]))
      (standard, [])

end LogFilter

namespace Event

/-- The target an event is logged under. -/
def target : Event → String
  | .textLoaded _ => "ordoplay_graph::serializer"
  | .fallbackCreated .. => "ordoplay_graph::defaults"
  | .sinksRebuilt .. | .outputFailed .. | .ticked .. => "ordoplay_graph::graph"
  | .inputMissing .. => "ordoplay_graph::processor"
  | .ioDiscarded .. => "ordoplay_graph::externals"
  | .writeRejected _ => "ordoplay_graph::nodes::property"

/-- The names of an event's fields, its message included. -/
def fields : Event → List String
  | .textLoaded _ => ["message", "nodes"]
  | .fallbackCreated .. => ["message", "node", "kind"]
  | .sinksRebuilt .. => ["message", "graph", "nodes", "sinks", "outputs"]
  | .outputFailed .. => ["message", "graph", "node"]
  | .ticked .. => ["message", "tick", "dt", "outputs"]
  | .inputMissing .. => ["message", "node", "input"]
  | .ioDiscarded .. => ["message", "node", "name"]
  | .writeRejected _ => ["message", "address"]

/-- The message of an event with its fields. -/
def text : Event → String
  | .textLoaded n => "Loaded graph text nodes=" ++ toString n
  | .fallbackCreated node kind =>
    "Created default node node=" ++ toString node ++ " kind=" ++ quoted kind
  | .sinksRebuilt g nodes sinks outputs =>
    "Rebuilt sink list graph=" ++ g ++ " nodes=" ++ toString nodes ++ " sinks=" ++ toString sinks ++
      " outputs=" ++ toString outputs
  | .outputFailed g node => "Output failed to compile graph=" ++ g ++ " node=" ++ toString node
  | .ticked tick dt outputs =>
    "Processing graph tick=" ++ toString tick ++ " dt=" ++ Decimal.general64 (Binary.widen dt) ++
      " outputs=" ++ toString outputs
  | .inputMissing node input =>
    "Required input has no processor node=" ++ toString node ++ " input=" ++ toString input
  | .ioDiscarded node name => "Discarding undeclared IO node node=" ++ toString node ++ " name=" ++ name
  | .writeRejected address => "Property rejected write address=" ++ address

end Event

/-- A log line: level, target and message. -/
def logLine (s : Severity) (target text : String) : String := s.label ++ " " ++ target ++ ": " ++ text

end NodeGraph
