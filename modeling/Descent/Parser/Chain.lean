import Descent.Parser.Repetition

/-!
Chains: an item, then pairs of a link and an item. A link that no item follows is given back, so a
chain that has its first item never fails.
-/

namespace Descent.Parser

/-- A link and the item behind it; `dangling` reports a link at a byte that has no item. -/
def linked (dangling : Nat → Event) (link : Parser β) (item : Parser α) : Parser (β × α) := do
  let before ← here
  let connection ← link
  let value ← item.onFailure fun failure => do
    emit (dangling before.index)
    fail failure
  return (connection, value)

/-- The first item and the pairs after it; without a first item the chain fails for `reason`. -/
def chain (limit : Nat) (reason : Nat → Reason) (dangling : Nat → Event) (item : Parser α)
    (link : Parser β) : Parser (α × List (β × α)) := do
  let entry ← here
  let first ← item.onFailure fun _ => fail (.composite entry (reason entry.index))
  let pairs ← star limit (linked dangling link item)
  return (first, pairs)

def interpose (limit : Nat) (item separator : Parser α) : Parser (List α) := do
  let (first, pairs) ← chain limit .noItem .danglingSeparator item separator
  return first :: pairs.flatMap fun (separator, item) => [separator, item]

/-- Operands joined by operators, grouped to the left. -/
def chainl (limit : Nat) (operand : Parser α) (operator : Parser (α → α → α)) : Parser α := do
  let (first, pairs) ← chain limit .noOperand .danglingOperator operand operator
  return pairs.foldl (fun joined (combine, right) => combine joined right) first

end Descent.Parser
