import Descent.Regex.Extent

/-!
Programs for regular expressions: graphs of nodes in which the order of the branches is the order of
preference.

An expression is compiled towards the node that follows it, from back to front. Copies of a body
that is repeated a fixed number of times are separate nodes; the rounds of an unbounded repetition
share theirs. A repetition without a least number of rounds is entered through the node that decides
on further rounds if each round surely reads something. Otherwise it is entered through a node of
its own, so that entering it and going round it are told apart.
-/

namespace Descent.Regex

inductive Node where
  | oneOf (set : CharClass) (next : Nat)
  | lookAt (look : Look) (next : Nat)
  | store (slot : Nat) (next : Nat)
  | split (first second : Nat)
  | accept

abbrev Nodes := Array Node

/-- A repetition's choice between another round and the exit. -/
def Node.turn (greedy : Bool) (round exit : Nat) : Node :=
  if greedy then .split round exit else .split exit round

def addNode (nodes : Nodes) (node : Node) : Nat × Nodes := (nodes.size, nodes.push node)

mutual
/-- Adds the nodes of an expression that goes on at the node `next`, and names its first one. -/
def compile : Regex → Nat → Nodes → Nat × Nodes
  | empty, next, nodes => (next, nodes)
  | literal text, next, nodes =>
    text.foldr (fun symbol (next, nodes) => addNode nodes (.oneOf (.single symbol) next)) (next, nodes)
  | oneOf set, next, nodes => addNode nodes (.oneOf set next)
  | lookAt look, next, nodes => addNode nodes (.lookAt look next)
  | concat parts, next, nodes => compileInOrder parts next nodes
  | alternation branches, next, nodes => compileInChoice branches next nodes
  | group number body, next, nodes =>
    let (exit, nodes) := addNode nodes (.store (2 * number + 1) next)
    let (inner, nodes) := compile body exit nodes
    addNode nodes (.store (2 * number) inner)
  | repetition body least most greedy, next, nodes =>
    let round := fun (entry, nodes) => compile body entry nodes
    match most with
    | some most =>
      let optionalRound := fun (entry, nodes) =>
        let (entry, nodes) := compile body entry nodes
        addNode nodes (Node.turn greedy entry next)
      Nat.repeat round least (Nat.repeat optionalRound (most - least) (next, nodes))
    | none =>
      let (turn, nodes) := addNode nodes .accept
      let (entry, nodes) := compile body turn nodes
      let nodes := nodes.setIfInBounds turn (Node.turn greedy entry next)
      if 0 < least then Nat.repeat round (least - 1) (entry, nodes)
      else if body.isSimpleRound then (turn, nodes)
      else addNode nodes (Node.turn greedy entry next)

def compileInOrder : List Regex → Nat → Nodes → Nat × Nodes
  | [], next, nodes => (next, nodes)
  | part :: rest, next, nodes =>
    let (middle, nodes) := compileInOrder rest next nodes
    compile part middle nodes

def compileInChoice : List Regex → Nat → Nodes → Nat × Nodes
  | [], _, nodes => addNode nodes (.oneOf [] 0)
  | [branch], next, nodes => compile branch next nodes
  | branch :: rest, next, nodes =>
    let (right, nodes) := compileInChoice rest next nodes
    let (left, nodes) := compile branch next nodes
    addNode nodes (.split left right)
end

structure Program where
  nodes : Nodes
  start : Nat
  groupCount : Nat
  /-- All matches begin at the start of the text. -/
  anchored : Bool

def program (regex : Regex) : Program :=
  let (start, nodes) := regex.compile 0 #[.accept]
  { nodes, start, groupCount := regex.groupCount, anchored := regex.beginsWith .textStart }

end Descent.Regex
