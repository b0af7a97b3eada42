import Descent.Regex.Extent

/-!
Building expressions in their simplest form.

Concatenations and alternations are flat and have two parts at least; literals that stand beside
each other are one; an alternation of symbols is a set. What is left of a repetition that can read
nothing is one round. A common beginning of all branches is taken out of an alternation, which may
prefer another match where the beginning can match in several ways.
-/

namespace Descent.Regex

def ofSet (set : CharClass) : Regex :=
  match set with
  | [(first, last)] => if first = last then .literal [.ofNat first] else .oneOf set
  | set => .oneOf set

def parts : Regex → List Regex
  | .empty => []
  | .concat parts => parts
  | regex => [regex]

def joinLiterals : List Regex → List Regex
  | [] => []
  | part :: rest =>
    match part, joinLiterals rest with
    | .literal text, .literal more :: rest => .literal (text ++ more) :: rest
    | part, rest => part :: rest

def inOrder (regexes : List Regex) : Regex :=
  match joinLiterals (regexes.flatMap parts) with
  | [] => .empty
  | [regex] => regex
  | parts => .concat parts

private def symbol? : Regex → Option Nat
  | .literal [symbol] => some symbol.toNat
  | _ => none

private def set? : Regex → Option CharClass
  | .oneOf set => some set
  | _ => none

def branches : Regex → List Regex
  | .alternation branches => branches
  | regex => [regex]

/-- Branches as a set of symbols, if they are single symbols or are all sets. -/
def asSet? (branches : List Regex) : Option Regex :=
  match branches.mapM symbol? with
  | some symbols => some (ofSet (.ofList (symbols.map fun symbol => (symbol, symbol))))
  | none => (branches.mapM set?).map fun sets => ofSet (.ofList sets.flatten)

private def commonLength : List Regex → List Regex → Nat
  | first :: firsts, second :: seconds =>
    if first == second then commonLength firsts seconds + 1 else 0
  | _, _ => 0

def concat? : Regex → Option (List Regex)
  | .concat parts => some parts
  | _ => none

/-- The parts that all branches begin with and what the branches have behind them, if all are
concatenations and have a part in common. -/
def commonBeginning? (branches : List Regex) : Option (List Regex × List Regex) := do
  let first :: rest ← branches.mapM concat? | none
  let length := rest.foldl (fun length parts => commonLength (first.take length) parts) first.length
  if length = 0 then none
  else return (first.take length, (first :: rest).map fun parts => inOrder (parts.drop length))

def inChoice (regexes : List Regex) : Regex :=
  match regexes.flatMap branches with
  | [] => .oneOf []
  | [regex] => regex
  | flat =>
    match asSet? flat with
    | some regex => regex
    | none =>
      match commonBeginning? flat with
      | none => .alternation flat
      | some (common, endings) =>
        let endings := endings.flatMap branches
        inOrder (common ++ [(asSet? endings).getD (.alternation endings)])

def repeated (body : Regex) (least : Nat) (most : Option Nat) (greedy : Bool) : Regex :=
  let (least, most) :=
    if body.readsNothing then (min least 1, some (min (most.getD 1) 1)) else (least, most)
  if least = 0 ∧ most = some 0 then .empty
  else if least = 1 ∧ most = some 1 then body
  else .repetition body least most greedy

end Descent.Regex
