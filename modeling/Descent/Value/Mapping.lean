import Descent.Value.Basic

/-!
Functions from values to values.
-/

namespace Descent.Value

def element (place : Nat) : Value → Value
  | .list values | .tuple values => values.getD place .none
  | _ => .none

def ofCapture : Option Capture → Value
  | .some capture => .some (.text capture.text)
  | .none => .none

def group (number : Nat) : Value → Value
  | .captures found => ofCapture (found.group? number)
  | _ => .none

def named (name : Text) : Value → Value
  | .captures found => ofCapture (found.named? name)
  | _ => .none

def everyOther : List Value → List Value
  | [] => []
  | [value] => [value]
  | value :: _ :: rest => value :: everyOther rest

/-- Every other element of a list, beginning with the first; any other value as it is. -/
def evens : Value → Value
  | .list values => .list (everyOther values)
  | value => value

def ofNat (number : Nat) : Value := .int (.ofNat number)

end Descent.Value
