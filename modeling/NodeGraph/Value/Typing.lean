import NodeGraph.Value.Type

/-!
# Typing rules

The small rules from which node kinds build their type checks: all inputs alike, an exact type
or nothing, vectors only, values only, the arithmetic promotions between floats, integers and
vectors, and whether a declared input type accepts a source type.
-/

namespace NodeGraph
namespace Typing

open ValueType

/-- The common type of a list: `none` for the empty list, the type itself when all agree, and
`error` otherwise. -/
def same : List ValueType → ValueType
  | [] => .none
  | t :: rest => if rest.all (· == t) then t else .error

/-- The type is the target, or the source produces nothing. -/
def exactOrNone (ty target : ValueType) : Bool := ty == target || ty == .none

/-- Vectors and colours pass; everything else is an error. -/
def vectorOnly (ty : ValueType) : ValueType := if ty.isVector then ty else .error

/-- Values pass; everything else is an error. -/
def valueOnly (ty : ValueType) : ValueType := if ty.isValue then ty else .error

/-- Arithmetic between floats and integers: two integers stay integer, any float makes a float. -/
def floatOrInt (a b : ValueType) : ValueType :=
  if !a.isFloatOrInt || !b.isFloatOrInt then .error
  else if a == b then a else .float

/-- A vector with a vector of the same type, or with a float or integer that is applied to
every component. -/
def vectorFloatOrInt (a b : ValueType) : ValueType :=
  match a.isVector, b.isVector with
  | true, true => if a == b then a else .error
  | true, false => if b.isFloatOrInt then a else .error
  | false, true => if a.isFloatOrInt then b else .error
  | false, false => .error

/-- Two floats, two equal vectors, or a vector with a float. -/
def vectorOrFloat (a b : ValueType) : ValueType :=
  if a == .float && b == .float then .float
  else if a.isVector && a == b then a
  else if a == .float && b.isVector then b
  else if b == .float && a.isVector then a
  else .error

/-- Whether an input declared with one type accepts a source of another: the wildcards accept
their classes, every other type only itself. -/
def accepts (declared source : ValueType) : Bool :=
  match declared with
  | .anyScalar => source.isValue
  | .anyVector => source.isVector
  | _ => declared == source

@[simp] theorem same_nil : same [] = .none := rfl

theorem same_replicate (t : ValueType) (n : Nat) : same (List.replicate (n + 1) t) = t := by
  simp [same, List.replicate_succ]

end Typing
end NodeGraph
