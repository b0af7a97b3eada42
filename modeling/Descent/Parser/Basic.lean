import Descent.Event

/-!
Parsers as functions from a cursor to a run: the events on the way and an outcome.

A run that neither matches nor fails is `unfinished`: its parser would go on for ever, or was given
too little depth to tell. Parsers form a monad, in which a failed or unfinished step ends the run
and the events of all steps add up.
-/

namespace Descent

inductive Outcome (α : Type) where
  | matched (value : α) (rest : Cursor)
  | failed (failure : Failure)
  | unfinished
  deriving DecidableEq, Repr

structure Run (α : Type) where
  events : List Event
  outcome : Outcome α
  deriving DecidableEq, Repr

def Run.after (events : List Event) (run : Run α) : Run α :=
  { run with events := events ++ run.events }

def Parser (α : Type) : Type := Cursor → Run α

namespace Parser

protected def pure (value : α) : Parser α := fun cursor => ⟨[], .matched value cursor⟩

protected def bind (first : Parser α) (next : α → Parser β) : Parser β := fun cursor =>
  let run := first cursor
  match run.outcome with
  | .matched value rest => (next value rest).after run.events
  | .failed failure => ⟨run.events, .failed failure⟩
  | .unfinished => ⟨run.events, .unfinished⟩

instance : Monad Parser where
  pure := Parser.pure
  bind := Parser.bind

def here : Parser Cursor := fun cursor => ⟨[], .matched cursor cursor⟩

def moveTo (target : Cursor) : Parser Unit := fun _ => ⟨[], .matched () target⟩

def emit (event : Event) : Parser Unit := fun cursor => ⟨[event], .matched () cursor⟩

def fail (failure : Failure) : Parser α := fun _ => ⟨[], .failed failure⟩

def unfinished : Parser α := fun _ => ⟨[], .unfinished⟩

/-- If the parser fails, the one that its failure names runs from the same cursor; what the failed
attempt read is given back and its events stay. -/
def onFailure (parser : Parser α) (handler : Failure → Parser α) : Parser α := fun cursor =>
  let run := parser cursor
  match run.outcome with
  | .failed failure => (handler failure cursor).after run.events
  | _ => run

/-- Moves every failure to the cursor of entry and makes it composite. -/
def anchored (parser : Parser α) : Parser α := do
  let entry ← here
  parser.onFailure fun failure => fail (failure.anchored entry)

end Parser

end Descent
