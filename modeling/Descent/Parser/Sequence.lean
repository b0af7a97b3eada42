import Descent.Parser.Basic

/-!
Sequences: every parser from where the one before it stopped. The first failure ends the sequence
and is reported where the sequence began.
-/

namespace Descent.Parser

def each : List (Parser α) → Parser (List α)
  | [] => pure []
  | parser :: rest => do
    let value ← parser
    let values ← each rest
    return value :: values

def sequence (parsers : List (Parser α)) : Parser (List α) := (each parsers).anchored

/-- A parser between two others whose values are dropped. -/
def between (opening : Parser α) (closing : Parser β) (inner : Parser γ) : Parser γ :=
  anchored do
    let _ ← opening
    let value ← inner
    let _ ← closing
    return value

end Descent.Parser
