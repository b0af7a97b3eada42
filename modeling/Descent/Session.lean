import Descent.Grammar.Run

/-!
Sessions: a cursor that is moved step by step over a text, with cursors kept in slots and the last
failure remembered.
-/

namespace Descent

structure Session where
  cursor : Cursor
  slots : List (Text × Cursor) := []
  failure? : Option Failure := none

namespace Session

def start (source : Text) : Session := { cursor := .start source }

inductive Step where
  | advance (count : Nat)
  | retreat
  | reset
  | save (slot : Text)
  /-- Back to the cursor in a slot; nothing happens if the slot is empty. -/
  | load (slot : Text)
  | isSaved (slot : Text)
  | isAt (source : Text) (count : Nat)
  /-- Runs a grammar from the cursor, which moves if the grammar matches. -/
  | parse (rules : Rules) (grammar : Grammar)
  | toFailure

inductive Answer where
  | moved
  | equal (holds : Bool)
  | parsed (outcome : Outcome Value)

def goTo (session : Session) (cursor : Cursor) : Session := { session with cursor }

def step (session : Session) : Step → Session × Answer
  | .advance count => (session.goTo (session.cursor.advance count), .moved)
  | .retreat => (session.goTo session.cursor.retreat, .moved)
  | .reset => (session.goTo (.start session.cursor.source), .moved)
  | .save slot => ({ session with slots := (slot, session.cursor) :: session.slots }, .moved)
  | .load slot => (session.goTo ((session.slots.lookup slot).getD session.cursor), .moved)
  | .isSaved slot => (session, .equal (session.slots.lookup slot = some session.cursor))
  | .isAt source count => (session, .equal (session.cursor = (Cursor.start source).advance count))
  | .parse rules grammar =>
    let outcome := (grammar.parser rules session.cursor).outcome
    let session := match outcome with
      | .matched _ rest => session.goTo rest
      | .failed failure => { session with failure? := some failure }
      | .unfinished => session
    (session, .parsed outcome)
  | .toFailure =>
    (session.goTo ((session.failure?.map (·.cursor)).getD session.cursor), .moved)

end Session

end Descent
