import Descent.Regex.Size.Tally

/-!
The size of the automaton that chooses among literals: a tree of their bytes.

Literals that go on with one byte share what follows, as long as no literal ends between them: a
literal that ends at a place is preferred to all later ones, and parts them from those before it.
-/

namespace Descent.Regex.Size

/-- The parts of a list of byte strings between those that are empty. -/
private def partsBetweenEnds : List (List Nat) → List (List (List Nat))
  | [] => [[]]
  | [] :: rest => [] :: partsBetweenEnds rest
  | literal :: rest =>
    match partsBetweenEnds rest with
    | [] => [[literal]]
    | part :: parts => (literal :: part) :: parts

private def endings (literals : List (List Nat)) : List (List (List Nat)) :=
  (literals.filterMap List.head?).eraseDups.map fun byte =>
    (literals.filter (·.head? == some byte)).map List.tail

/-- Counts the states for a place in the tree, given what the literals have behind it, in at most
`depth` bytes: one for each part that goes on, and one that chooses among the parts and the end. A
part that goes on with one byte only takes no extra bytes. -/
private def place : Nat → List (List Nat) → Tally → Tally
  | 0, _, tally => tally
  | depth + 1, literals, tally =>
    let parts := partsBetweenEnds <|
      match literals with
      | [] :: rest => [] :: rest.dropWhile List.isEmpty
      | literals => literals
    let tally := parts.foldl (fun tally part =>
      let endings := endings part
      let tally := endings.foldl (fun tally ending =>
        if ending.all List.isEmpty then tally else place depth ending tally) tally
      match endings.length with
      | 0 => tally
      | 1 => tally.add 1 0
      | count => tally.add 1 (8 * count)) tally
    tally.add 1 (4 * ((parts.filter (!·.isEmpty)).length + (parts.length - 1)))

def literals (literals : List (List Nat)) (tally : Tally) : Tally :=
  let depth := literals.foldl (fun depth literal => max depth literal.length) 0
  place (depth + 1) literals (tally.add 1 0)

end Descent.Regex.Size
