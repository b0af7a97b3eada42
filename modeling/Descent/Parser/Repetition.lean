import Descent.Parser.Choice

/-!
Repetitions: a parser again and again from where it stopped, until it fails.

A parser that matches without moving repeats for ever. The number of rounds is therefore limited,
and a repetition that has not ended within its limit is unfinished.
-/

namespace Descent.Parser

/-- The values of all matches; the attempt that ends the repetition reads nothing. -/
def star : Nat → Parser α → Parser (List α)
  | 0, _ => unfinished
  | limit + 1, parser => do
    match ← parser.optional with
    | none => return []
    | some value => return value :: (← star limit parser)

def many (limit least : Nat) (parser : Parser α) : Parser (List α) := do
  let entry ← here
  let values ← star limit parser
  if values.length < least then
    emit (.belowMinimum entry.index values.length least)
    fail (.composite entry (.tooFew entry.index least values.length))
  else
    return values

end Descent.Parser
