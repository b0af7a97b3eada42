import Descent.Grammar.Leaf

/-!
Revisions: what may be made of a match, given the cursor where it was entered, its value and the
cursor after it.
-/

namespace Descent.Revision

def positions : Revision := fun entry _ rest =>
  .ok (.tuple [.ofNat entry.index, .ofNat rest.index], rest)

def rewind : Revision := fun entry value _ => .ok (value, entry)

def advance (count : Nat) : Revision := fun _ value rest => .ok (value, rest.advance count)

def retreat : Revision := fun _ value rest => .ok (value, rest.retreat)

def reject (message : Text) : Revision := fun entry _ _ => .error (.new entry (.said message))

def rejectHere (message : Text) : Revision := fun _ _ rest => .error (.new rest (.said message))

def rejectComposite (message : Text) : Revision := fun _ _ rest =>
  .error (.composite rest (.said message))

def rejectAnchored (message : Text) : Revision := fun entry _ rest =>
  .error ((Failure.new rest (.said message)).anchored entry)

/-- The text from the entry to the cursor after the match, nothing if the match went backwards. -/
def slice : Revision := fun entry _ rest =>
  .ok (.text ((entry.source.slice? entry.index rest.index).getD []), rest)

def locations : Revision := fun entry _ rest =>
  .ok (.tuple [entry.location.toValue, rest.location.toValue], rest)

def remainder : Revision := fun _ _ rest => .ok (.text rest.remainder, rest)

end Descent.Revision
