import Descent.Regex.Sweep

/-!
Searching a text for the leftmost match, and among the matches that begin there the preferred one.

A sweep tells where the match stops, if it is decided. A search in depth then finds what groups took
part in it, or the match itself if the sweep was given up.

The search in depth takes branches in order of preference, and visits a node at a position at most
once: if a visit led to no match, another would not either, and a visit that is still under way
means that rounds of a repetition read nothing. Starts further right are tried after all else, so
the visits of earlier starts count for later ones.
-/

namespace Descent.Regex

/-- A branch of the search: a node, a position in symbols, and the stored positions, latest first. -/
structure Thread where
  node : Nat
  position : Nat
  stored : List (Nat × Nat) := []

/-- What a search may read: symbols up to the position `stop`. Tests see the symbols behind it. -/
structure Scope where
  text : Array Char
  stop : Nat
  exact : Bool

def Scope.accepts (scope : Scope) (position : Nat) : Bool := !scope.exact || position == scope.stop

def Thread.step (scope : Scope) (thread : Thread) : Node → List Thread
  | .accept => []
  | .oneOf set next =>
    match scope.text[thread.position]? with
    | some symbol =>
      if thread.position < scope.stop && set.holds symbol then
        [{ thread with node := next, position := thread.position + 1 }]
      else []
    | none => []
  | .lookAt look next =>
    let before := if thread.position = 0 then none else scope.text[thread.position - 1]?
    if look.holds before scope.text[thread.position]? then [{ thread with node := next }] else []
  | .store slot next =>
    [{ thread with node := next, stored := (slot, thread.position) :: thread.stored }]
  | .split first second => [{ thread with node := first }, { thread with node := second }]

def follow (nodes : Nodes) (scope : Scope) :
    Nat → List Thread → Std.HashSet (Nat × Nat) → Option (List (Nat × Nat))
  | 0, _, _ => none
  | _ + 1, [], _ => none
  | steps + 1, thread :: waiting, visited =>
    let place := (thread.node, thread.position)
    if visited.contains place then follow nodes scope steps waiting visited
    else
      match nodes[thread.node]? with
      | none => follow nodes scope steps waiting visited
      | some node =>
        if node.isAccept && scope.accepts thread.position then some thread.stored
        else
          follow nodes scope steps (thread.step scope node ++ waiting) (visited.insert place)

def groupSpan (stored : List (Nat × Nat)) (number : Nat) : Option (Nat × Nat) := do
  return (← stored.lookup (2 * number), ← stored.lookup (2 * number + 1))

namespace Program

/-- The spans of the groups of the first match from one of the positions `starts`, which are tried
in order. Every visit adds at most two branches, which bounds the steps. -/
def searchFrom (program : Program) (scope : Scope) (starts : List Nat) :
    Option (List (Option (Nat × Nat))) :=
  let threads := starts.map fun position => { node := program.start, position : Thread }
  let steps := (scope.text.size + 1) * (2 * program.nodes.size) + starts.length + 1
  (follow program.nodes scope steps threads {}).map fun stored =>
    (List.range program.groupCount).map (groupSpan stored)

/-- The spans of the groups of the match, in symbols, from group 0 on, which is the whole match.
Where a sweep has told the place where the match stops, groups take part in the preferred match
that begins with it and stops there at the latest. -/
def search (program : Program) (text : Text) : Option (List (Option (Nat × Nat))) :=
  let symbols := text.toArray
  let starts := if program.anchored then [0] else List.range (symbols.size + 1)
  match program.sweep text with
  | .undecided =>
    program.searchFrom { text := symbols, stop := symbols.size, exact := false } starts
  | .noMatch => none
  | .stops stop =>
    match program.searchFrom { text := symbols, stop, exact := true } starts with
    | some (some (start, _) :: _ :: _) =>
      program.searchFrom { text := symbols, stop, exact := false } [start]
    | whole => whole

end Program

end Descent.Regex
