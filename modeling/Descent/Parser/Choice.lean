import Descent.Parser.Basic

/-!
Choices: the first alternative that matches, all tried from the same cursor.
-/

namespace Descent.Parser

/-- The alternatives in order, numbered from `number`; each one that fails is reported. -/
def firstOf (number : Nat) : List (Parser α) → Parser α
  | [] => do
    let entry ← here
    fail (.composite entry (.noAlternative entry.index))
  | parser :: rest => parser.onFailure fun failure => do
    emit (.alternativeFailed number failure)
    firstOf (number + 1) rest

def choose (alternatives : List (Parser α)) : Parser α := firstOf 0 alternatives

/-- Never fails: `none` where the parser does not match. -/
def optional (parser : Parser α) : Parser (Option α) :=
  onFailure (some <$> parser) fun _ => pure none

end Descent.Parser
