import Descent.Regex.Program
import Std.Data.HashSet.Basic

/-!
Sweeping a text once, with all branches side by side, for the place where the preferred match stops.

A front lists the nodes where branches wait at a place, the preferred ones first: to read a symbol,
to accept, or at a test of the place. While the next symbol is not known, tests are decided only as
far as the symbol before the place tells. Where the next symbol lets further tests pass, branches go
on from all nodes of the front, in order, and without memory of the splits that led there. So behind
a test, a round of a repetition may be followed by another one before the repetition is left, though
the first one has read nothing.

Words are known to a sweep as far as they are ASCII. Where a test of Unicode words meets another
symbol, the sweep is given up.
-/

namespace Descent.Regex

abbrev Front := List Nat

/-- Follows branches as far as they need not read and tests hold. Every node is passed once at most;
the nodes where branches wait come latest first, tests that hold among them. -/
def spread (nodes : Nodes) (holds : Look → Bool) :
    Nat → List Nat → Std.HashSet Nat → Front → Front
  | 0, _, _, front => front
  | _ + 1, [], _, front => front
  | steps + 1, node :: rest, passed, front =>
    if passed.contains node then spread nodes holds steps rest passed front
    else
      let passed := passed.insert node
      match nodes[node]? with
      | some (.split first second) =>
        spread nodes holds steps (first :: second :: rest) passed front
      | some (.store _ next) => spread nodes holds steps (next :: rest) passed front
      | some (.lookAt look next) =>
        let rest := if holds look then next :: rest else rest
        spread nodes holds steps rest passed (node :: front)
      | some _ => spread nodes holds steps rest passed (node :: front)
      | none => spread nodes holds steps rest passed front

/-- The front that branches from some nodes make. Every node that is passed leads to two more at
most, which bounds the steps. -/
def frontFrom (nodes : Nodes) (holds : Look → Bool) (starts : List Nat) : Front :=
  (spread nodes holds (2 * nodes.size + starts.length + 1) starts {} []).reverse

def Node.look? : Node → Option Look
  | .lookAt look _ => some look
  | _ => none

def Node.isAccept : Node → Bool
  | .accept => true
  | _ => false

def Node.read? (symbol : Char) : Node → Option Nat
  | .oneOf set next => if set.holds symbol then some next else none
  | _ => none

/-- A front with the next symbol known. It stays as it is unless tests pass that were open. -/
def settle (nodes : Nodes) (before after : Option Char) (front : Front) : Front :=
  let passesNow (look : Look) : Bool := look.holds before after && !look.holdsBefore before
  if front.any fun node => ((nodes[node]?).bind Node.look?).any passesNow then
    frontFrom nodes (·.holds before after) front
  else front

inductive Verdict where
  | undecided
  | noMatch
  | stops (place : Nat)
  deriving DecidableEq, Repr

/-- Sweeps the text from `place` on, where branches wait in `front`, and `found` has been found
before. Branches behind one that accepts are dropped, since a match of theirs would not be preferred. -/
def sweepFrom (nodes : Nodes) (unicodeWords : Bool) (before : Option Char) (front : Front)
    (found : Verdict) (place : Nat) : Text → Verdict
  | [] =>
    let front := settle nodes before none front
    if front.any fun node => (nodes[node]?).any Node.isAccept then .stops place else found
  | symbol :: rest =>
    if unicodeWords && '\x7F' < symbol then .undecided
    else
      let front := settle nodes before (some symbol) front
      let readers := front.takeWhile fun node => !(nodes[node]?).any Node.isAccept
      let accepts := readers.length < front.length
      let found := if accepts then .stops place else found
      let next := frontFrom nodes (·.holdsBefore (some symbol)) <|
        readers.filterMap fun node => (nodes[node]?).bind (Node.read? symbol)
      if next.isEmpty && !accepts then found
      else sweepFrom nodes unicodeWords (some symbol) next found (place + 1) rest

namespace Program

/-- The nodes of a program and the one to start at. Unless it is anchored, a loop is put before it
that reads any symbols, but prefers to start. -/
def entry (program : Program) : Nat × Nodes :=
  if program.anchored then (program.start, program.nodes)
  else
    let loop := program.nodes.size
    let nodes := program.nodes.push (.split program.start (loop + 1))
    (loop, nodes.push (.oneOf .any loop))

/-- Where the preferred one of the leftmost matches stops. It is left open where no test asks for
the next symbol: preference does not depend on the way of searching then. -/
def sweep (program : Program) (text : Text) : Verdict :=
  let looks := program.nodes.toList.filterMap Node.look?
  if !looks.any Look.asksNext then .undecided
  else
    let (start, nodes) := program.entry
    let unicodeWords := looks.any fun
      | .word _ unicode => unicode
      | _ => false
    let front := frontFrom nodes (·.holdsBefore none) [start]
    sweepFrom nodes unicodeWords none front .noMatch 0 text

end Program

end Descent.Regex
