import Descent.Regex.Extent
import Descent.Regex.Size.Literals
import Descent.Regex.Size.Symbols

/-!
The size of expressions: how large the automata are that read their matches byte by byte, one
forward and one backward. An expression is too large if either of them takes more bytes than the
limit. The automata are counted and never built.
-/

namespace Descent.Regex.Size

private def literalBytes? (backwards : Bool) : Regex → Option (List Nat)
  | .literal text =>
    let bytes := text.flatMap Unicode.Utf8.encode
    some (if backwards then bytes.reverse else bytes)
  | _ => none

mutual
/-- Counts an expression. States for the borders of groups are in the forward automaton only. -/
def expression (backwards : Bool) : Regex → Tally → Tally
  | .empty, tally | .lookAt _, tally => tally.add 1 0
  | .literal text, tally => tally.add (Text.byteSize text) 0
  | .oneOf set, tally => symbols backwards set tally
  | .concat parts, tally => inOrder backwards parts tally
  | .alternation branches, tally =>
    match branches.mapM (literalBytes? backwards) with
    | some bytes => literals bytes tally
    | none => inChoice backwards 0 branches tally
  | .group _ body, tally =>
    if backwards then expression backwards body tally
    else (expression backwards body (tally.add 1 0)).add 1 0
  | .repetition body least most _, tally =>
    let round := expression backwards body
    match most with
    | none =>
      if 0 < least then (Tally.copies round least tally).add 1 8
      else if body.isSimpleRound then round (tally.add 1 8)
      else (round tally).add 3 16
    | some most =>
      if least = 0 ∧ most = 1 then (round (tally.add 1 8)).add 1 0
      else
        let tally := if least = 0 then tally.add 1 0 else Tally.copies round least tally
        if least = most then tally
        else Tally.copies (fun tally => round (tally.add 1 8)) (most - least) (tally.add 1 0)

def inOrder (backwards : Bool) : List Regex → Tally → Tally
  | [], tally => tally
  | part :: rest, tally =>
    if backwards then expression backwards part (inOrder backwards rest tally)
    else inOrder backwards rest (expression backwards part tally)

/-- Counts the branches of an alternation from branch `number` on. Behind the second one come the
state that chooses and the state where all branches end. -/
def inChoice (backwards : Bool) : Nat → List Regex → Tally → Tally
  | _, [], tally => tally
  | number, branch :: rest, tally =>
    let tally := (expression backwards branch tally).add (if number = 1 then 2 else 0) 4
    inChoice backwards (number + 1) rest tally
end

/-- The states before an expression: a loop over all bytes, unless matches begin with the given test
of the place. -/
private def beginning (anchored : Bool) : Tally :=
  if anchored then { states := 1 } else { states := 3, extra := 16 }

def fits (regex : Regex) : Bool :=
  let forward := expression false regex (beginning (regex.beginsWith .textStart))
  let backward := expression true regex (beginning (regex.endsWith .textEnd))
  (forward.add 1 0).fits && (backward.add 1 0).fits

end Descent.Regex.Size
