import Descent.Value.Basic

/-!
Ways to join two operands by the operator between them.
-/

namespace Descent.Value

/-- Joins, given the operator, the left and the right operand. -/
abbrev Fold : Type := Value → Value → Value → Value

namespace Fold

def node : Fold := fun operator left right => .node operator.toText left right

def flip : Fold := fun operator left right => .node operator.toText right left

/-- Arithmetic by the operator's text. It wraps at 64 bits; any operator but plus, minus and times
divides towards zero, and division by zero is 0. -/
def arithmetic : Fold := fun operator left right =>
  let left := left.toInt
  let right := right.toInt
  .int <| match operator.toText with
    | ['+'] => left + right
    | ['-'] => left - right
    | ['*'] => left * right
    | _ => left / right

def concat : Fold := fun operator left right =>
  .text (left.toText ++ operator.toText ++ right.toText)

def left : Fold := fun _ left _ => left

def right : Fold := fun _ _ right => right

def append : Fold := fun _ left right =>
  match left with
  | .list values => .list (values ++ [right])
  | left => .list [left, right]

end Fold

end Descent.Value
