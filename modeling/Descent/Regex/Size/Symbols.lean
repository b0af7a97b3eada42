import Descent.Regex.CharClass
import Descent.Regex.Size.Tally
import Descent.Unicode.Utf8

/-!
The size of the automaton that reads one symbol of a set by its bytes.

A set of ASCII symbols is one state with all ranges and one where it ends. Other sets are read by
the byte sequences of their symbols. Forward, sequences share their beginnings, as they ascend, and
what follows as far as a table has it. Backward, sequences share what lies towards their first byte
as far as a table has it.
-/

namespace Descent.Regex.Size

open Unicode (Utf8.ByteRange)

structure Shared where
  tally : Tally
  sharing : Sharing

def Shared.state (shared : Shared) (form : List Nat) (extra : Nat) : Nat × Shared :=
  match shared.sharing.find? form with
  | some state => (state, shared)
  | none =>
    let state := shared.tally.states
    (state, { tally := shared.tally.add 1 extra, sharing := shared.sharing.insert form state })

/-- The state from which sequences of bytes lead to the state `target`, all up to `depth` bytes
long. Transitions over neighbours with one first range are one. -/
def forwardState (target : Nat) : Nat → List (List Utf8.ByteRange) → Shared → Nat × Shared
  | 0, _, shared => (target, shared)
  | depth + 1, sequences, shared =>
    let runs := sequences.splitBy fun first second => first.head? == second.head?
    let (form, shared) := runs.foldl (fun (form, shared) run =>
      match run with
      | ((first, last) :: rest) :: others =>
        let (next, shared) :=
          if rest.isEmpty then (target, shared)
          else forwardState target depth (rest :: others.map List.tail) shared
        (form ++ [first, last, next], shared)
      | _ => (form, shared)) ([], shared)
    shared.state form (8 * runs.length)

def forward (set : CharClass) (tally : Tally) : Tally :=
  let shared : Shared := { tally := tally.add 1 0, sharing := { places := 10000 } }
  (forwardState tally.states 4 (Unicode.Utf8.sequences set) shared).2.tally

/-- Counts a set that is read backward, beginning with the state that chooses among its sequences
and the state where it ends. -/
def backward (set : CharClass) (tally : Tally) : Tally :=
  let shared : Shared := { tally := tally.add 2 0, sharing := { places := 1000 } }
  let shared := (Unicode.Utf8.sequences set).foldl (fun shared sequence =>
    let (_, shared) := sequence.foldl (fun (next, shared) (first, last) =>
      shared.state [next, first, last] 0) (tally.states + 1, shared)
    { shared with tally := shared.tally.add 0 4 }) shared
  shared.tally

def symbols (backwards : Bool) (set : CharClass) (tally : Tally) : Tally :=
  if Unicode.Ranges.isAscii set then tally.add 2 (8 * set.length)
  else if backwards then backward set tally
  else forward set tally

end Descent.Regex.Size
