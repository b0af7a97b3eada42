import Descent.Proofs.Parser.Outcome

/-!
# What the combinators report

For every combinator, its events in terms of the events and outcomes of its
parts. A part that is run leaves all its events where it was run, whatever
becomes of it; only a choice, a repetition with a least number and a chain add
events of their own.
-/

namespace Descent.Parser

variable {α β : Type}

-- ---------------------------------------------------------------------------
-- Steps
-- ---------------------------------------------------------------------------

theorem bind_events (parser : Parser α) (next : α → Parser β) (cursor : Cursor) :
    ((parser >>= next) cursor).events = (parser cursor).events ++
      match (parser cursor).outcome with
      | .matched value rest => (next value rest).events
      | _ => [] := by
  show (Parser.bind parser next cursor).events = _
  simp only [Parser.bind]
  split <;> simp_all [Run.after]

theorem onFailure_events (parser : Parser α) (handler : Failure → Parser α) (cursor : Cursor) :
    (parser.onFailure handler cursor).events = (parser cursor).events ++
      match (parser cursor).outcome with
      | .failed failure => (handler failure cursor).events
      | _ => [] := by
  simp only [onFailure]
  split <;> simp_all [Run.after]

@[simp] theorem pure_events (value : α) (cursor : Cursor) :
    ((pure value : Parser α) cursor).events = [] := rfl

@[simp] theorem moveTo_events (target cursor : Cursor) : (moveTo target cursor).events = [] := rfl

@[simp] theorem emit_events (event : Event) (cursor : Cursor) :
    (emit event cursor).events = [event] := rfl

@[simp] theorem fail_events (failure : Failure) (cursor : Cursor) :
    ((fail failure : Parser α) cursor).events = [] := rfl

@[simp] theorem emit_bind_events (event : Event) (next : Unit → Parser α) (cursor : Cursor) :
    ((emit event >>= next) cursor).events = event :: (next () cursor).events := rfl

@[simp] theorem map_events (f : α → β) (parser : Parser α) (cursor : Cursor) :
    ((f <$> parser) cursor).events = (parser cursor).events := by
  show ((parser >>= fun first => pure (f first)) cursor).events = _
  rw [bind_events]
  cases (parser cursor).outcome <;> simp

@[simp] theorem anchored_events (parser : Parser α) (cursor : Cursor) :
    (parser.anchored cursor).events = (parser cursor).events := by
  rw [anchored, here_bind, onFailure_events]
  cases (parser cursor).outcome <;> simp

-- ---------------------------------------------------------------------------
-- Parsers that report nothing of their own
-- ---------------------------------------------------------------------------

@[simp] theorem character_events (expected : Char) (cursor : Cursor) :
    (character expected cursor).events = [] := by
  simp only [character, here_bind]
  split <;> rfl

@[simp] theorem literal_events (expected : Text) (cursor : Cursor) :
    (literal expected cursor).events = [] := by
  simp only [literal, here_bind]
  split <;> rfl

@[simp] theorem pattern_events (searched : Pattern) (cursor : Cursor) :
    (pattern searched cursor).events = [] := by
  simp only [pattern, here_bind]
  cases searched.matchStart? cursor.remainder <;> rfl

@[simp] theorem optional_events (parser : Parser α) (cursor : Cursor) :
    (parser.optional cursor).events = (parser cursor).events := by
  rw [optional, onFailure_events, map_events]
  cases ((some <$> parser) cursor).outcome <;> simp

@[simp] theorem mapState_events (parser : Parser α)
    (step : Cursor → α → Cursor → Except Failure (β × Cursor)) (cursor : Cursor) :
    (parser.mapState step cursor).events = (parser cursor).events := by
  simp only [mapState, here_bind, bind_events]
  cases (parser cursor).outcome with
  | matched value rest =>
    cases hstep : step cursor value rest <;> simp [hstep, bind_events]
  | _ => simp

@[simp] theorem filter_events (parser : Parser α) (test : α → Bool) (message : Text)
    (cursor : Cursor) : (parser.filter test message cursor).events = (parser cursor).events := by
  simp only [filter, here_bind, bind_events]
  cases (parser cursor).outcome with
  | matched value rest => cases htest : test value <;> simp [htest]
  | _ => simp

@[simp] theorem indexed_events (parser : Parser α) (cursor : Cursor) :
    (parser.indexed cursor).events = (parser cursor).events := by
  simp only [indexed, here_bind, bind_events]
  cases (parser cursor).outcome <;> simp

-- ---------------------------------------------------------------------------
-- Sequences and choices
-- ---------------------------------------------------------------------------

theorem each_cons_events (parser : Parser α) (parsers : List (Parser α)) (cursor : Cursor) :
    (each (parser :: parsers) cursor).events = (parser cursor).events ++
      match (parser cursor).outcome with
      | .matched _ middle => (each parsers middle).events
      | _ => [] := by
  rw [each, bind_events]
  cases (parser cursor).outcome with
  | matched value middle =>
    simp only [bind_events]
    cases (each parsers middle).outcome <;> simp
  | _ => rfl

theorem firstOf_cons_events (number : Nat) (parser : Parser α) (parsers : List (Parser α))
    (cursor : Cursor) :
    (firstOf number (parser :: parsers) cursor).events = (parser cursor).events ++
      match (parser cursor).outcome with
      | .failed failure =>
        .alternativeFailed number failure :: (firstOf (number + 1) parsers cursor).events
      | _ => [] := by
  rw [firstOf, onFailure_events]
  cases (parser cursor).outcome <;> simp

theorem between_events (opening closing inner : Parser α) (cursor : Cursor) :
    (opening.between closing inner cursor).events =
      (each [opening, inner, closing] cursor).events := by
  rw [between, anchored_events, bind_events, each_cons_events]
  cases (opening cursor).outcome with
  | matched first opened =>
    simp only [bind_events, each_cons_events]
    cases (inner opened).outcome with
    | matched value closed =>
      simp only [each]
      cases (closing closed).outcome <;> simp
    | _ => rfl
  | _ => rfl

-- ---------------------------------------------------------------------------
-- Repetitions and chains
-- ---------------------------------------------------------------------------

theorem star_succ_events (limit : Nat) (parser : Parser α) (cursor : Cursor) :
    (star (limit + 1) parser cursor).events = (parser cursor).events ++
      match (parser cursor).outcome with
      | .matched _ middle => (star limit parser middle).events
      | _ => [] := by
  rw [star, bind_events, optional_events, optional_outcome]
  cases (parser cursor).outcome with
  | matched value middle =>
    simp only [bind_events]
    cases (star limit parser middle).outcome <;> simp
  | _ => rfl

theorem many_events (limit least : Nat) (parser : Parser α) (cursor : Cursor) :
    (many limit least parser cursor).events = (star limit parser cursor).events ++
      match (star limit parser cursor).outcome with
      | .matched values _ =>
        if values.length < least then [.belowMinimum cursor.index values.length least] else []
      | _ => [] := by
  simp only [many, here_bind, bind_events]
  cases (star limit parser cursor).outcome with
  | matched values rest =>
    dsimp only
    split <;> simp
  | _ => rfl

theorem linked_events (dangling : Nat → Event) (link : Parser β) (item : Parser α)
    (cursor : Cursor) :
    (linked dangling link item cursor).events = (link cursor).events ++
      match (link cursor).outcome with
      | .matched _ middle => (item middle).events ++
        match (item middle).outcome with
        | .failed _ => [dangling cursor.index]
        | _ => []
      | _ => [] := by
  simp only [linked, here_bind, bind_events, onFailure_events]
  cases (link cursor).outcome with
  | matched connection middle =>
    simp only [onFailure_outcome]
    cases (item middle).outcome <;> simp
  | _ => rfl

theorem chain_events (limit : Nat) (reason : Nat → Reason) (dangling : Nat → Event)
    (item : Parser α) (link : Parser β) (cursor : Cursor) :
    (chain limit reason dangling item link cursor).events = (item cursor).events ++
      match (item cursor).outcome with
      | .matched _ middle => (star limit (linked dangling link item) middle).events
      | _ => [] := by
  simp only [chain, here_bind, bind_events, onFailure_events, onFailure_outcome]
  cases (item cursor).outcome with
  | matched first middle =>
    simp only
    cases (star limit (linked dangling link item) middle).outcome <;> simp
  | _ => simp

@[simp] theorem interpose_events (limit : Nat) (item separator : Parser α) (cursor : Cursor) :
    (interpose limit item separator cursor).events =
      (chain limit .noItem .danglingSeparator item separator cursor).events := by
  simp only [interpose, bind_events]
  cases (chain limit .noItem .danglingSeparator item separator cursor).outcome <;> simp

@[simp] theorem chainl_events (limit : Nat) (operand : Parser α) (operator : Parser (α → α → α))
    (cursor : Cursor) :
    (chainl limit operand operator cursor).events =
      (chain limit .noOperand .danglingOperator operand operator cursor).events := by
  simp only [chainl, bind_events]
  cases (chain limit .noOperand .danglingOperator operand operator cursor).outcome <;> simp

end Descent.Parser
