import Descent.Parser.Basic
import Descent.Pattern

/-!
Parsers without parts. They fail where they were entered.
-/

namespace Descent.Parser

def character (expected : Char) : Parser Char := do
  let entry ← here
  if entry.current = some expected then
    moveTo (entry.advance 1)
    return expected
  else
    fail (.new entry (.character expected entry.current entry.index))

/-- A given text. What it is said to have found instead has as many symbols, or all there are. -/
def literal (expected : Text) : Parser Text := do
  let entry ← here
  if expected.isPrefixOf entry.remainder then
    moveTo (entry.skipBytes expected.byteSize)
    return expected
  else
    fail (.new entry
      (.literal expected (entry.remainder.take expected.length) entry.index))

/-- A match of a pattern that begins at the cursor; the pattern sees no text before it. -/
def pattern (pattern : Pattern) : Parser Captures := do
  let entry ← here
  match pattern.matchStart? entry.remainder with
  | some (captures, length) =>
    moveTo (entry.skipBytes (Text.byteSize (entry.remainder.take length)))
    return captures
  | none => fail (.new entry (.pattern pattern.shown entry.index))

end Descent.Parser
