import Descent.Value.Fold
import Descent.Failure

/-!
Grammars: descriptions of parsers as data, which may name rules and so refer to themselves.
-/

namespace Descent

/-- A parser without parts that is given as a function. -/
abbrev Leaf : Type := Cursor → Except Failure (Value × Cursor)

abbrev Revision : Type := Cursor → Value → Cursor → Except Failure (Value × Cursor)

inductive Grammar where
  | character (expected : Char)
  | literal (expected : Text)
  | pattern (pattern : Pattern)
  | leaf (leaf : Leaf)
  /-- A sequence that yields a tuple. -/
  | tuple (parts : List Grammar)
  /-- A sequence that yields a list. -/
  | list (parts : List Grammar)
  | choose (alternatives : List Grammar)
  | optional (body : Grammar)
  | many (body : Grammar) (least : Nat)
  | interpose (item separator : Grammar)
  | between (opening closing inner : Grammar)
  | chainl (operand operator : Grammar) (fold : Value.Fold)
  | map (body : Grammar) (mapping : Value → Value)
  | mapState (body : Grammar) (revision : Revision)
  | filter (body : Grammar) (test : Value → Bool) (message : Text)
  | indexed (body : Grammar)
  | rule (name : Text)

/-- Grammars by name; of two of one name the first counts. -/
abbrev Rules : Type := List (Text × Grammar)

namespace Grammar

def partLimit : Nat := 10

/-- A tuple of fixed parts, from one to as many as there can be. -/
def tuple? (parts : List Grammar) : Option Grammar :=
  if 1 ≤ parts.length ∧ parts.length ≤ partLimit then some (.tuple parts) else none

def choose? (alternatives : List Grammar) : Option Grammar :=
  if 1 ≤ alternatives.length ∧ alternatives.length ≤ partLimit then some (.choose alternatives)
  else none

/-- A chain in which every operator joins in its own way. The operator's value is put in a pair
with its number, by which the chain finds the way to join. -/
def chainlOf (operand : Grammar) (operators : List (Grammar × Value.Fold)) : Grammar :=
  let numbered := operators.zipIdx.map fun ((operator, _), number) =>
    operator.map fun value => .tuple [.int (.ofNat number), value]
  .chainl operand (.choose numbered) fun operator left right =>
    match operator with
    | .tuple [.int number, value] =>
      match operators[number.toNatClampNeg]? with
      | some (_, fold) => fold value left right
      | none => left
    | _ => left

mutual
def size : Grammar → Nat
  | .character _ | .literal _ | .pattern _ | .leaf _ | .rule _ => 1
  | .tuple parts | .list parts | .choose parts => sizeOfAll parts + 1
  | .optional body | .many body _ | .map body _ | .mapState body _ | .filter body _ _
  | .indexed body => body.size + 1
  | .interpose item separator => item.size + separator.size + 1
  | .between opening closing inner => opening.size + closing.size + inner.size + 1
  | .chainl operand operator _ => operand.size + operator.size + 1

def sizeOfAll : List Grammar → Nat
  | [] => 0
  | grammar :: rest => grammar.size + sizeOfAll rest
end

end Grammar

def Rules.size (rules : Rules) : Nat := Grammar.sizeOfAll (rules.map (·.2))

end Descent
