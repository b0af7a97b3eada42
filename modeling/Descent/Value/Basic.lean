import Descent.Pattern
import Descent.Span

/-!
Values that grammars yield, with four views of them: text, number, count and depth.
-/

namespace Descent

inductive Value where
  | char (symbol : Char)
  | text (content : Text)
  | int (number : Int64)
  | none
  | some (value : Value)
  | list (values : List Value)
  | tuple (values : List Value)
  | captures (found : Captures)
  | spanned (value : Value) (span : Span)
  | tagged (tag : Text) (value : Value)
  | node (label : Text) (left right : Value)

namespace Value

mutual
def toText : Value → Text
  | .char symbol => [symbol]
  | .text content => content
  | .int number => .ofInt number.toInt
  | .none => []
  | .some value | .spanned value _ | .tagged _ value => value.toText
  | .list values | .tuple values => textOfAll values
  | .captures found => ((found.group? 0).map (·.text)).getD []
  | .node label left right => left.toText ++ label ++ right.toText

def textOfAll : List Value → Text
  | [] => []
  | value :: rest => value.toText ++ textOfAll rest
end

mutual
def depth : Value → Nat
  | .char _ | .text _ | .int _ | .none | .captures _ => 0
  | .some value | .spanned value _ | .tagged _ value => value.depth + 1
  | .list values | .tuple values => depthOfAll values + 1
  | .node _ left right => max left.depth right.depth + 1

def depthOfAll : List Value → Nat
  | [] => 0
  | value :: rest => max value.depth (depthOfAll rest)
end

/-- How many parts a value has; what has no parts counts as one. -/
def count : Value → Nat
  | .list values | .tuple values => values.length
  | .captures found => found.groups.length
  | .text content => content.length
  | .none => 0
  | _ => 1

/-- The number that a text writes in decimal, one sign allowed, if it fits in 64 bits. -/
def numberOf? (written : Text) : Option Int64 :=
  let (negative, digits) := match written with
    | '-' :: digits => (true, digits)
    | '+' :: digits => (false, digits)
    | digits => (false, digits)
  if digits.isEmpty || !digits.all Char.isDigit then .none
  else
    let size := digits.foldl (fun value digit => value * 10 + (digit.toNat - '0'.toNat)) 0
    let number : Int := if negative then -size else size
    if Int64.minValue.toInt ≤ number ∧ number ≤ Int64.maxValue.toInt then .some (.ofInt number)
    else .none

/-- A value as a number: itself, or what its text writes, or else 0. -/
def toInt : Value → Int64
  | .int number => number
  | value => (numberOf? value.toText).getD 0

end Value

end Descent
