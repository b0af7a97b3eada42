import Std.Data.HashMap.Basic

/-!
Counting the states of automata and the bytes that they take, with tables through which states of
one form are shared.
-/

namespace Descent.Regex.Size

/-- What has been counted: states, which are numbered in the order in which they are counted, and
the bytes that their transitions take besides. -/
structure Tally where
  states : Nat := 0
  extra : Nat := 0
  deriving DecidableEq, Repr

namespace Tally

def stateSize : Nat := 32

def limit : Nat := 10 <<< 20

def add (tally : Tally) (states extra : Nat) : Tally :=
  { states := tally.states + states, extra := tally.extra + extra }

def bytes (tally : Tally) : Nat := stateSize * tally.states + tally.extra

def fits (tally : Tally) : Bool := tally.bytes ≤ limit

/-- Counts so many times. The rest does not matter once the limit is passed, and is not counted. -/
def copies (count : Tally → Tally) : Nat → Tally → Tally
  | 0, tally => tally
  | times + 1, tally => if tally.fits then copies count times (count tally) else tally

end Tally

/-- A table of states by their forms. The form of a state is the sequence of numbers that it
consists of. The table has a bounded number of places; each form has its place, and a state takes
the place of the one that had it before. -/
structure Sharing where
  places : Nat
  entries : Std.HashMap Nat (List Nat × Nat) := {}

namespace Sharing

/-- Where a form has its place. Its numbers are mixed one after the other, each by an exclusive or
and a multiplication modulo 2^64. -/
def place (sharing : Sharing) (form : List Nat) : Nat :=
  let mix (mixed : UInt64) (number : Nat) : UInt64 := (mixed ^^^ number.toUInt64) * 1099511628211
  (form.foldl mix 14695981039346656037).toNat % sharing.places

def find? (sharing : Sharing) (form : List Nat) : Option Nat :=
  match sharing.entries[sharing.place form]? with
  | some (other, state) => if other = form then some state else none
  | none => none

def insert (sharing : Sharing) (form : List Nat) (state : Nat) : Sharing :=
  { sharing with entries := sharing.entries.insert (sharing.place form) (form, state) }

end Sharing

end Descent.Regex.Size
