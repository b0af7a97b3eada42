import Descent.Parser.Basic
import Descent.Span

/-!
Parsers that change the value, the cursor or the verdict of another. Its failures pass through
unchanged.
-/

namespace Descent.Parser

def mapState (parser : Parser α)
    (step : Cursor → α → Cursor → Except Failure (β × Cursor)) : Parser β := do
  let entry ← here
  let value ← parser
  let rest ← here
  match step entry value rest with
  | .ok (value, target) =>
    moveTo target
    return value
  | .error failure => fail failure

/-- Fails at the entry, with a message, where the test rejects the value. -/
def filter (parser : Parser α) (test : α → Bool) (message : Text) : Parser α := do
  let entry ← here
  let value ← parser
  if test value then return value else fail (.composite entry (.said message))

def indexed (parser : Parser α) : Parser (α × Span) := do
  let entry ← here
  let value ← parser
  let rest ← here
  return (value, { source := entry.source, start := entry.index, stop := rest.index })

end Descent.Parser
