import Descent.Failure

/-!
Events: what a run reports on its way, in the order in which it happens. Attempts that are given up
keep their events.
-/

namespace Descent

inductive Event where
  | opened (size : Nat)
  | closed
  | succeeded (consumed : Nat)
  | failed (failure : Failure)
  /-- An alternative of a choice, numbered from 0, failed. -/
  | alternativeFailed (number : Nat) (failure : Failure)
  | belowMinimum (index found least : Nat)
  /-- No item follows the separator at a byte. -/
  | danglingSeparator (index : Nat)
  | danglingOperator (index : Nat)
  deriving DecidableEq, Repr

namespace Event

inductive Level where
  | debug
  | trace
  deriving DecidableEq, Repr

inductive Datum where
  | number (value : Nat)
  | text (value : Text)
  deriving DecidableEq, Repr

def level : Event → Level
  | opened _ | closed | succeeded _ | failed _ => .debug
  | alternativeFailed .. | belowMinimum .. | danglingSeparator _ | danglingOperator _ => .trace

/-- The wording of an event; the bounds of the entry point have none. -/
def text? : Event → Option Text
  | opened _ | closed => none
  | succeeded _ => some "parse succeeded".toList
  | failed _ => some "parse failed".toList
  | alternativeFailed .. => some "alternative failed".toList
  | belowMinimum .. => some "repetition below minimum".toList
  | danglingSeparator _ => some "separator without item".toList
  | danglingOperator _ => some "operator without operand".toList

def fields : Event → List (String × Datum)
  | opened size => [("len", .number size)]
  | closed => []
  | succeeded consumed => [("consumed", .number consumed)]
  | failed failure => [("index", .number failure.index), ("message", .text failure.message)]
  | alternativeFailed number failure =>
    [("alternative", .number number), ("message", .text failure.message)]
  | belowMinimum index found least =>
    [("index", .number index), ("found", .number found), ("min", .number least)]
  | danglingSeparator index | danglingOperator index => [("index", .number index)]

end Event

end Descent
