import NodeGraph.Link
import NodeGraph.Text.Printable

/-!
# Errors

The errors an editing or reading operation returns. Each is a cause with the data that explains
it; `GraphError.message` gives its text and `GraphError.kindName` the name of its kind. Text is
quoted in messages the way the graph's tools quote it: between double quotes, with backslash
escapes for quotes, backslashes, control characters, marks and other characters that do not
print.
-/

namespace NodeGraph

/-- The escape sequence of a character that is not written as itself inside a quoted text: the
usual backslash escapes, and a `\u{hex}` escape for grapheme extenders and characters that are
not printable. -/
def escapeChar (c : Char) : List Char :=
  match c with
  | '\t' => ['\\', 't']
  | '\r' => ['\\', 'r']
  | '\n' => ['\\', 'n']
  | '\\' => ['\\', '\\']
  | '"' => ['\\', '"']
  | _ =>
    if c.toNat = 0 then ['\\', '0']
    else if Text.isGraphemeExtend c || !Text.isPrintable c then
      ['\\', 'u', '{'] ++ Nat.toDigits 16 c.toNat ++ ['}']
    else [c]

/-- A text between double quotes, with escapes. -/
def quoted (s : String) : String :=
  String.ofList ('"' :: (s.toList.flatMap escapeChar) ++ ['"'])

/-- Why an operation on a graph, or the reading of its text, failed. -/
inductive GraphError where
  | nodeNotFound (id : NodeId)
  | unknownKind (kind : String)
  | inputOutOfRange (node : NodeId) (input : Nat)
  | wrongNodeKind (node : NodeId) (expected : ValueType)
  | notControllable (id : NodeId)
  | noIoKind (t : ValueType)
  | emptySelection
  | duplicateId (id : NodeId)
  /-- a record of the graph text without the parts every record needs -/
  | malformedRecord (record : String)
  /-- a field list ended before the field at this position -/
  | missingField (node : NodeId) (field : Nat)
  /-- a field list had this many fields past the last one read -/
  | trailingFields (node : NodeId) (extra : Nat)
  /-- a field's text is not a literal of the expected kind -/
  | invalidLiteral (node : NodeId) (expected : String) (text : String)
deriving Inhabited, Repr, DecidableEq

namespace GraphError

/-- The name of the error's kind. -/
def kindName : GraphError → String
  | .nodeNotFound _ => "NodeNotFound"
  | .unknownKind _ => "UnknownKind"
  | .inputOutOfRange _ _ => "InputOutOfRange"
  | .wrongNodeKind _ _ => "WrongNodeKind"
  | .notControllable _ => "NotControllable"
  | .noIoKind _ => "NoIoKind"
  | .emptySelection => "EmptySelection"
  | .duplicateId _ => "DuplicateId"
  | .malformedRecord _ => "MalformedRecord"
  | .missingField _ _ => "MissingField"
  | .trailingFields _ _ => "TrailingFields"
  | .invalidLiteral _ _ _ => "InvalidLiteral"

/-- The error's message. -/
def message : GraphError → String
  | .nodeNotFound id => "Node not found: " ++ toString id
  | .unknownKind k => "Unknown node kind: " ++ k
  | .inputOutOfRange node input => "Node " ++ toString node ++ " has no input " ++ toString input
  | .wrongNodeKind node t => "Node " ++ toString node ++ " does not expose a " ++ t.name ++ " value"
  | .notControllable id => "Node " ++ toString id ++ " is not controllable"
  | .noIoKind t => "No IO node available for " ++ t.name
  | .emptySelection => "Nothing to duplicate"
  | .duplicateId id => "Duplicate node id: " ++ toString id
  | .malformedRecord r => "Malformed record: " ++ quoted r
  | .missingField node field => "Node " ++ toString node ++ ": missing field " ++ toString field
  | .trailingFields node extra =>
    "Node " ++ toString node ++ ": " ++ toString extra ++ " unexpected trailing fields"
  | .invalidLiteral node expected text =>
    "Node " ++ toString node ++ ": invalid " ++ expected ++ " literal " ++ quoted text

end GraphError

/-- The message for a value-type index outside the fixed order. -/
def unknownValueTypeMessage (index : Nat) : String :=
  "Value type index out of range: " ++ toString index

end NodeGraph
