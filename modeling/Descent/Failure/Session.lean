import Descent.Failure

/-!
Sessions with failures: a current failure over a text that is replaced, moved and compared with a
saved one.
-/

namespace Descent.Failure

structure Session where
  source : Text
  current : Failure
  saved : Failure

namespace Session

def start (source : Text) : Session :=
  let initial := Failure.new (.start source) (.said "initial".toList)
  { source, current := initial, saved := initial }

def place (session : Session) (count : Nat) : Cursor :=
  (Cursor.start session.source).advance count

inductive Step where
  | fail (count : Nat) (message : Text)
  | failComposite (count : Nat) (message : Text)
  | anchor (count : Nat)
  | save

def step (session : Session) : Step → Session
  | .fail count message =>
    { session with current := .new (session.place count) (.said message) }
  | .failComposite count message =>
    { session with current := .composite (session.place count) (.said message) }
  | .anchor count => { session with current := session.current.anchored (session.place count) }
  | .save => { session with saved := session.current }

end Session

end Descent.Failure
