import Descent.Grammar.Basic
import Descent.Value.Mapping

/-!
Leaves of grammars: small parsers that look at the place they are at.
-/

namespace Descent

def Location.toValue (location : Location) : Value :=
  .tuple [.ofNat location.line, .ofNat location.byteOffset]

namespace Leaf

def any : Leaf := fun cursor =>
  match cursor.current with
  | some symbol => .ok (.char symbol, cursor.advance 1)
  | none => .error (.new cursor (.said "unexpected end of input".toList))

def atEnd : Leaf := fun cursor =>
  if cursor.isAtEnd then .ok (.none, cursor)
  else .error (.new cursor (.said "expected end of input".toList))

def fail (message : Text) : Leaf := fun cursor => .error (.new cursor (.said message))

def failComposite (message : Text) : Leaf := fun cursor => .error (.composite cursor (.said message))

def failAhead (count : Nat) (message : Text) : Leaf := fun cursor =>
  .error (.new (cursor.advance count) (.said message))

def yields (text : Text) : Leaf := fun cursor => .ok (.text text, cursor)

/-- As many symbols as given, or none at all. -/
def take (count : Nat) : Leaf := fun cursor =>
  let taken := cursor.remainder.take count
  if taken.length < count then .error (.new cursor (.said "unexpected end of input".toList))
  else .ok (.text taken, cursor.advance count)

/-- Everything before the next such symbol, or before the end. -/
def upTo (symbol : Char) : Leaf := fun cursor =>
  let taken := cursor.remainder.takeWhile (· != symbol)
  .ok (.text taken, cursor.advance taken.length)

def previous : Leaf := fun cursor =>
  match cursor.before.getLast? with
  | some symbol => .ok (.char symbol, cursor)
  | none => .error (.new cursor (.said "at start of input".toList))

def lineStart : Leaf := fun cursor =>
  if cursor.location.byteOffset = 0 then .ok (.none, cursor)
  else .error (.new cursor (.said "not at line start".toList))

def location : Leaf := fun cursor => .ok (cursor.location.toValue, cursor)

def back : Leaf := fun cursor => .ok (.none, cursor.retreat)

end Leaf

end Descent
