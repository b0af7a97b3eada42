import Descent.Parser.Chain
import Descent.Parser.Primitive
import Descent.Parser.Sequence
import Descent.Parser.Transform

/-!
# What the combinators come to

For every combinator, exactly when it matches and with which value and cursor,
and exactly when it fails and with which failure, in terms of what its parts
do. Nothing is asked of the parts: they may fail at any cursor and stop at
any cursor. Later modules use these equivalences and never open a combinator.
-/

namespace Descent

def Outcome.map (f : α → β) : Outcome α → Outcome β
  | .matched value rest => .matched (f value) rest
  | .failed failure => .failed failure
  | .unfinished => .unfinished

theorem Outcome.map_map (outcome : Outcome α) (f : α → β) (g : β → γ) :
    (outcome.map f).map g = outcome.map fun value => g (f value) := by
  cases outcome <;> rfl

@[simp] theorem Outcome.map_id (outcome : Outcome α) : outcome.map id = outcome := by
  cases outcome <;> rfl

theorem Outcome.map_matched {outcome : Outcome α} {f : α → β} :
    outcome.map f = .matched value rest ↔
      ∃ first, outcome = .matched first rest ∧ f first = value := by
  cases outcome <;> simp only [map, matched.injEq, reduceCtorEq, false_and, exists_false]
  constructor
  · rintro ⟨rfl, rfl⟩
    exact ⟨_, ⟨rfl, rfl⟩, rfl⟩
  · rintro ⟨_, ⟨rfl, rfl⟩, rfl⟩
    exact ⟨rfl, rfl⟩

theorem Outcome.map_failed {outcome : Outcome α} {f : α → β} {failure : Failure} :
    outcome.map f = .failed failure ↔ outcome = .failed failure := by
  cases outcome <;> simp [map]

theorem Outcome.map_unfinished {outcome : Outcome α} {f : α → β} :
    outcome.map f = .unfinished ↔ outcome = .unfinished := by
  cases outcome <;> simp [map]

namespace Parser

/-- Every parser matches from where the one before it stopped. -/
inductive Threads : List (Parser α) → Cursor → List α → Cursor → Prop
  | nil : Threads [] cursor [] cursor
  | cons {parser : Parser α} :
      (parser cursor).outcome = .matched value middle → Threads parsers middle values rest →
      Threads (parser :: parsers) cursor (value :: values) rest

def AllFail (parsers : List (Parser α)) (cursor : Cursor) : Prop :=
  ∀ parser ∈ parsers, ∃ failure, (parser cursor).outcome = .failed failure

variable {α β γ : Type} {cursor rest : Cursor} {failure : Failure}

-- ---------------------------------------------------------------------------
-- Steps
-- ---------------------------------------------------------------------------

theorem bind_outcome (parser : Parser α) (next : α → Parser β) (cursor : Cursor) :
    ((parser >>= next) cursor).outcome = match (parser cursor).outcome with
      | .matched value rest => (next value rest).outcome
      | .failed failure => .failed failure
      | .unfinished => .unfinished := by
  show (Parser.bind parser next cursor).outcome = _
  simp only [Parser.bind]
  split <;> simp_all [Run.after]

@[simp] theorem pure_outcome (value : α) (cursor : Cursor) :
    ((pure value : Parser α) cursor).outcome = .matched value cursor := rfl

@[simp] theorem here_outcome (cursor : Cursor) : (here cursor).outcome = .matched cursor cursor :=
  rfl

@[simp] theorem moveTo_outcome (target cursor : Cursor) :
    (moveTo target cursor).outcome = .matched () target := rfl

@[simp] theorem emit_outcome (event : Event) (cursor : Cursor) :
    (emit event cursor).outcome = .matched () cursor := rfl

@[simp] theorem fail_outcome (failure : Failure) (cursor : Cursor) :
    ((fail failure : Parser α) cursor).outcome = .failed failure := rfl

@[simp] theorem unfinished_outcome (cursor : Cursor) :
    ((unfinished : Parser α) cursor).outcome = .unfinished := rfl

@[simp] theorem here_bind (next : Cursor → Parser α) (cursor : Cursor) :
    (here >>= next) cursor = next cursor cursor := rfl

@[simp] theorem emit_bind_outcome (event : Event) (next : Unit → Parser α) (cursor : Cursor) :
    ((emit event >>= next) cursor).outcome = (next () cursor).outcome := rfl

theorem bind_matched {parser : Parser α} {next : α → Parser β} :
    ((parser >>= next) cursor).outcome = .matched value rest ↔
      ∃ first middle, (parser cursor).outcome = .matched first middle ∧
        (next first middle).outcome = .matched value rest := by
  rw [bind_outcome]
  cases (parser cursor).outcome <;> simp [and_assoc]

theorem bind_failed {parser : Parser α} {next : α → Parser β} :
    ((parser >>= next) cursor).outcome = .failed failure ↔
      (parser cursor).outcome = .failed failure ∨
        ∃ first middle, (parser cursor).outcome = .matched first middle ∧
          (next first middle).outcome = .failed failure := by
  rw [bind_outcome]
  cases (parser cursor).outcome <;> simp [and_assoc]

theorem bind_unfinished {parser : Parser α} {next : α → Parser β} :
    ((parser >>= next) cursor).outcome = .unfinished ↔
      (parser cursor).outcome = .unfinished ∨
        ∃ first middle, (parser cursor).outcome = .matched first middle ∧
          (next first middle).outcome = .unfinished := by
  rw [bind_outcome]
  cases (parser cursor).outcome <;> simp [and_assoc]

theorem map_outcome (parser : Parser α) (f : α → β) (cursor : Cursor) :
    ((f <$> parser) cursor).outcome = (parser cursor).outcome.map f := by
  show ((parser >>= fun value => pure (f value)) cursor).outcome = _
  rw [bind_outcome]
  cases (parser cursor).outcome <;> rfl

theorem map_matched {parser : Parser α} {f : α → β} :
    ((f <$> parser) cursor).outcome = .matched value rest ↔
      ∃ first, (parser cursor).outcome = .matched first rest ∧ f first = value := by
  show ((parser >>= fun first => pure (f first)) cursor).outcome = _ ↔ _
  simp only [bind_matched, pure_outcome, Outcome.matched.injEq]
  constructor
  · rintro ⟨first, middle, h, rfl, rfl⟩
    exact ⟨first, h, rfl⟩
  · rintro ⟨first, h, rfl⟩
    exact ⟨first, rest, h, rfl, rfl⟩

@[simp] theorem map_failed {parser : Parser α} {f : α → β} :
    ((f <$> parser) cursor).outcome = .failed failure ↔
      (parser cursor).outcome = .failed failure := by
  show ((parser >>= fun first => pure (f first)) cursor).outcome = _ ↔ _
  simp [bind_failed]

@[simp] theorem map_unfinished {parser : Parser α} {f : α → β} :
    ((f <$> parser) cursor).outcome = .unfinished ↔ (parser cursor).outcome = .unfinished := by
  show ((parser >>= fun first => pure (f first)) cursor).outcome = _ ↔ _
  simp [bind_unfinished]

theorem onFailure_outcome (parser : Parser α) (handler : Failure → Parser α) (cursor : Cursor) :
    (parser.onFailure handler cursor).outcome = match (parser cursor).outcome with
      | .failed failure => (handler failure cursor).outcome
      | outcome => outcome := by
  simp only [onFailure]
  split <;> simp_all [Run.after]

theorem onFailure_matched {parser : Parser α} {handler : Failure → Parser α} :
    (parser.onFailure handler cursor).outcome = .matched value rest ↔
      (parser cursor).outcome = .matched value rest ∨
        ∃ failure, (parser cursor).outcome = .failed failure ∧
          (handler failure cursor).outcome = .matched value rest := by
  rw [onFailure_outcome]
  cases (parser cursor).outcome <;> simp

theorem onFailure_failed {parser : Parser α} {handler : Failure → Parser α} :
    (parser.onFailure handler cursor).outcome = .failed failure ↔
      ∃ cause, (parser cursor).outcome = .failed cause ∧
        (handler cause cursor).outcome = .failed failure := by
  rw [onFailure_outcome]
  cases (parser cursor).outcome <;> simp

theorem onFailure_unfinished {parser : Parser α} {handler : Failure → Parser α} :
    (parser.onFailure handler cursor).outcome = .unfinished ↔
      (parser cursor).outcome = .unfinished ∨
        ∃ failure, (parser cursor).outcome = .failed failure ∧
          (handler failure cursor).outcome = .unfinished := by
  rw [onFailure_outcome]
  cases (parser cursor).outcome <;> simp

theorem anchored_matched {parser : Parser α} :
    (parser.anchored cursor).outcome = .matched value rest ↔
      (parser cursor).outcome = .matched value rest := by
  simp [anchored, onFailure_matched]

theorem anchored_failed {parser : Parser α} :
    (parser.anchored cursor).outcome = .failed failure ↔
      ∃ cause, (parser cursor).outcome = .failed cause ∧ failure = cause.anchored cursor := by
  simp [anchored, onFailure_failed, @eq_comm _ failure]

theorem anchored_unfinished {parser : Parser α} :
    (parser.anchored cursor).outcome = .unfinished ↔ (parser cursor).outcome = .unfinished := by
  simp [anchored, onFailure_unfinished]

-- ---------------------------------------------------------------------------
-- Sequences
-- ---------------------------------------------------------------------------

theorem each_matched {parsers : List (Parser α)} :
    (each parsers cursor).outcome = .matched values rest ↔
      Threads parsers cursor values rest := by
  induction parsers generalizing cursor values rest with
  | nil =>
    simp only [each, pure_outcome, Outcome.matched.injEq]
    constructor
    · rintro ⟨rfl, rfl⟩
      exact .nil
    · rintro ⟨⟩
      exact ⟨rfl, rfl⟩
  | cons parser parsers ih =>
    simp only [each, bind_matched, pure_outcome, Outcome.matched.injEq, ih]
    constructor
    · rintro ⟨value, middle, h, _, _, hrest, rfl, rfl⟩
      exact .cons h hrest
    · rintro (_ | ⟨h, hrest⟩)
      exact ⟨_, _, h, _, _, hrest, rfl, rfl⟩

@[simp] theorem each_nil_outcome (cursor : Cursor) :
    (each ([] : List (Parser α)) cursor).outcome = .matched [] cursor := rfl

theorem each_cons_failed {parser : Parser α} {parsers : List (Parser α)} :
    (each (parser :: parsers) cursor).outcome = .failed failure ↔
      (parser cursor).outcome = .failed failure ∨
        ∃ value middle, (parser cursor).outcome = .matched value middle ∧
          (each parsers middle).outcome = .failed failure := by
  simp only [each, bind_failed, pure_outcome, reduceCtorEq, and_false, exists_false, or_false]

theorem each_failed {parsers : List (Parser α)} :
    (each parsers cursor).outcome = .failed failure ↔
      ∃ before parser after values middle, parsers = before ++ parser :: after ∧
        Threads before cursor values middle ∧ (parser middle).outcome = .failed failure := by
  induction parsers generalizing cursor with
  | nil => simp [each]
  | cons first parsers ih =>
    simp only [each_cons_failed, ih]
    constructor
    · rintro (h | ⟨value, middle, h, before, parser, after, values, stop, rfl, hbefore, hfail⟩)
      · exact ⟨[], first, parsers, [], cursor, rfl, .nil, h⟩
      · exact ⟨first :: before, parser, after, _, stop, rfl, .cons h hbefore, hfail⟩
    · rintro ⟨before, parser, after, values, stop, heq, hbefore, hfail⟩
      cases hbefore with
      | nil =>
        obtain ⟨rfl, rfl⟩ := List.cons.inj heq
        exact .inl hfail
      | cons h hbefore =>
        obtain ⟨rfl, rfl⟩ := List.cons.inj heq
        exact .inr ⟨_, _, h, _, _, _, _, _, rfl, hbefore, hfail⟩

theorem sequence_matched {parsers : List (Parser α)} :
    (sequence parsers cursor).outcome = .matched values rest ↔
      Threads parsers cursor values rest := by
  rw [sequence, anchored_matched, each_matched]

theorem sequence_failed {parsers : List (Parser α)} :
    (sequence parsers cursor).outcome = .failed failure ↔
      ∃ inner, (each parsers cursor).outcome = .failed inner ∧ failure = inner.anchored cursor := by
  rw [sequence, anchored_failed]

theorem sequence_unfinished {parsers : List (Parser α)} :
    (sequence parsers cursor).outcome = .unfinished ↔
      (each parsers cursor).outcome = .unfinished := by
  rw [sequence, anchored_unfinished]

theorem between_matched {opening : Parser α} {closing : Parser β} {inner : Parser γ} :
    (opening.between closing inner cursor).outcome = .matched value rest ↔
      ∃ first opened last closed, (opening cursor).outcome = .matched first opened ∧
        (inner opened).outcome = .matched value closed ∧
        (closing closed).outcome = .matched last rest := by
  simp only [between, anchored_matched, bind_matched, pure_outcome, Outcome.matched.injEq]
  constructor
  · rintro ⟨first, opened, hopening, inner, closed, hinner, last, stop, hclosing, rfl, rfl⟩
    exact ⟨first, opened, last, closed, hopening, hinner, hclosing⟩
  · rintro ⟨first, opened, last, closed, hopening, hinner, hclosing⟩
    exact ⟨first, opened, hopening, value, closed, hinner, last, rest, hclosing, rfl, rfl⟩

theorem between_failed {opening : Parser α} {closing : Parser β} {inner : Parser γ} :
    (opening.between closing inner cursor).outcome = .failed failure ↔
      ∃ cause, ((opening cursor).outcome = .failed cause ∨
          ∃ first opened, (opening cursor).outcome = .matched first opened ∧
            ((inner opened).outcome = .failed cause ∨
              ∃ value closed, (inner opened).outcome = .matched value closed ∧
                (closing closed).outcome = .failed cause)) ∧
        failure = cause.anchored cursor := by
  simp only [between, anchored_failed, bind_failed, pure_outcome, reduceCtorEq, and_false,
    exists_false, or_false]

theorem between_unfinished {opening closing inner : Parser α} :
    (opening.between closing inner cursor).outcome = .unfinished ↔
      (each [opening, inner, closing] cursor).outcome = .unfinished := by
  simp [between, each, anchored_unfinished, bind_unfinished]

-- ---------------------------------------------------------------------------
-- Choices
-- ---------------------------------------------------------------------------

theorem firstOf_matched {parsers : List (Parser α)} :
    (firstOf number parsers cursor).outcome = .matched value rest ↔
      ∃ before parser after, parsers = before ++ parser :: after ∧ AllFail before cursor ∧
        (parser cursor).outcome = .matched value rest := by
  induction parsers generalizing number with
  | nil => simp [firstOf]
  | cons first parsers ih =>
    simp only [firstOf, onFailure_matched, emit_bind_outcome, ih]
    constructor
    · rintro (h | ⟨failure, hfirst, before, parser, after, rfl, hbefore, hparser⟩)
      · exact ⟨[], first, parsers, rfl, by simp [AllFail], h⟩
      · refine ⟨first :: before, parser, after, rfl, ?_, hparser⟩
        exact List.forall_mem_cons.mpr ⟨⟨failure, hfirst⟩, hbefore⟩
    · rintro ⟨before, parser, after, heq, hbefore, hparser⟩
      cases before with
      | nil =>
        obtain ⟨rfl, rfl⟩ := List.cons.inj heq
        exact .inl hparser
      | cons _ before =>
        obtain ⟨rfl, rfl⟩ := List.cons.inj heq
        obtain ⟨⟨failure, hfirst⟩, hbefore⟩ := List.forall_mem_cons.mp hbefore
        exact .inr ⟨failure, hfirst, before, parser, after, rfl, hbefore, hparser⟩

theorem firstOf_failed {parsers : List (Parser α)} :
    (firstOf number parsers cursor).outcome = .failed failure ↔
      AllFail parsers cursor ∧ failure = .composite cursor (.noAlternative cursor.index) := by
  induction parsers generalizing number with
  | nil => simp [firstOf, AllFail, eq_comm]
  | cons first parsers ih =>
    simp only [firstOf, onFailure_failed, emit_bind_outcome, ih, AllFail, List.forall_mem_cons,
      and_assoc, exists_and_right]

theorem choose_matched {parsers : List (Parser α)} :
    (choose parsers cursor).outcome = .matched value rest ↔
      ∃ before parser after, parsers = before ++ parser :: after ∧ AllFail before cursor ∧
        (parser cursor).outcome = .matched value rest := firstOf_matched

theorem choose_failed {parsers : List (Parser α)} :
    (choose parsers cursor).outcome = .failed failure ↔
      AllFail parsers cursor ∧ failure = .composite cursor (.noAlternative cursor.index) :=
  firstOf_failed

theorem optional_outcome (parser : Parser α) (cursor : Cursor) :
    (parser.optional cursor).outcome = match (parser cursor).outcome with
      | .matched value rest => .matched (some value) rest
      | .failed _ => .matched none cursor
      | .unfinished => .unfinished := by
  rw [optional, onFailure_outcome, map_outcome]
  cases (parser cursor).outcome <;> rfl

theorem optional_some {parser : Parser α} :
    (parser.optional cursor).outcome = .matched (some value) rest ↔
      (parser cursor).outcome = .matched value rest := by
  simp [optional, onFailure_matched, map_matched]

theorem optional_none {parser : Parser α} :
    (parser.optional cursor).outcome = .matched none rest ↔
      (∃ failure, (parser cursor).outcome = .failed failure) ∧ rest = cursor := by
  simp [optional, onFailure_matched, map_matched, @eq_comm _ rest]

theorem optional_not_failed {parser : Parser α} :
    (parser.optional cursor).outcome ≠ .failed failure := by
  simp [optional, onFailure_failed]

theorem optional_unfinished {parser : Parser α} :
    (parser.optional cursor).outcome = .unfinished ↔ (parser cursor).outcome = .unfinished := by
  simp [optional, onFailure_unfinished]

-- ---------------------------------------------------------------------------
-- Repetitions
-- ---------------------------------------------------------------------------

theorem star_succ_matched {parser : Parser α} :
    (star (limit + 1) parser cursor).outcome = .matched values rest ↔
      (∃ failure, (parser cursor).outcome = .failed failure) ∧ values = [] ∧ rest = cursor ∨
        ∃ value middle later, (parser cursor).outcome = .matched value middle ∧
          (star limit parser middle).outcome = .matched later rest ∧ values = value :: later := by
  simp only [star, bind_matched, Option.exists, optional_none, optional_some, pure_outcome,
    Outcome.matched.injEq]
  constructor
  · rintro (⟨middle, ⟨hfail, rfl⟩, rfl, rfl⟩ | ⟨value, middle, h, later, stop, hlater, rfl, rfl⟩)
    · exact .inl ⟨hfail, rfl, rfl⟩
    · exact .inr ⟨value, middle, later, h, hlater, rfl⟩
  · rintro (⟨hfail, rfl, rfl⟩ | ⟨value, middle, later, h, hlater, rfl⟩)
    · exact .inl ⟨_, ⟨hfail, rfl⟩, rfl, rfl⟩
    · exact .inr ⟨value, middle, h, later, rest, hlater, rfl, rfl⟩

theorem star_succ_unfinished {parser : Parser α} :
    (star (limit + 1) parser cursor).outcome = .unfinished ↔
      (parser cursor).outcome = .unfinished ∨
        ∃ value middle, (parser cursor).outcome = .matched value middle ∧
          (star limit parser middle).outcome = .unfinished := by
  simp [star, bind_unfinished, Option.exists, optional_none, optional_some, optional_unfinished]

theorem star_not_failed {parser : Parser α} :
    (star limit parser cursor).outcome ≠ .failed failure := by
  induction limit generalizing cursor with
  | zero => simp [star]
  | succ limit ih =>
    simp [star, bind_failed, Option.exists, optional_not_failed, ih]

/-- A repetition is the chain of all matches from its entry, ended by the attempt that fails. -/
theorem star_matched {parser : Parser α} :
    (star limit parser cursor).outcome = .matched values rest ↔
      values.length < limit ∧ Threads (List.replicate values.length parser) cursor values rest ∧
        ∃ failure, (parser rest).outcome = .failed failure := by
  induction limit generalizing cursor values with
  | zero => simp [star]
  | succ limit ih =>
    simp only [star_succ_matched, ih]
    constructor
    · rintro (⟨hfail, rfl, rfl⟩ | ⟨value, middle, later, h, ⟨hlength, hchain, hend⟩, rfl⟩)
      · exact ⟨Nat.succ_pos _, .nil, hfail⟩
      · exact ⟨Nat.succ_lt_succ hlength, .cons h hchain, hend⟩
    · rintro ⟨hlength, hchain, hend⟩
      cases values with
      | nil =>
        cases hchain
        exact .inl ⟨hend, rfl, rfl⟩
      | cons value later =>
        obtain _ | ⟨h, hchain⟩ := hchain
        exact .inr ⟨value, _, later, h, ⟨Nat.lt_of_succ_lt_succ hlength, hchain, hend⟩, rfl⟩

theorem many_matched {parser : Parser α} :
    (many limit least parser cursor).outcome = .matched values rest ↔
      (star limit parser cursor).outcome = .matched values rest ∧ least ≤ values.length := by
  simp only [many, here_bind, bind_matched]
  constructor
  · rintro ⟨found, stop, hstar, h⟩
    split at h
    · simp at h
    · simp only [pure_outcome, Outcome.matched.injEq] at h
      obtain ⟨rfl, rfl⟩ := h
      exact ⟨hstar, by omega⟩
  · rintro ⟨hstar, hleast⟩
    exact ⟨values, rest, hstar, by simp [Nat.not_lt.mpr hleast]⟩

theorem many_failed {parser : Parser α} :
    (many limit least parser cursor).outcome = .failed failure ↔
      ∃ values rest, (star limit parser cursor).outcome = .matched values rest ∧
        values.length < least ∧
        failure = .composite cursor (.tooFew cursor.index least values.length) := by
  simp only [many, here_bind, bind_failed, star_not_failed, false_or]
  constructor
  · rintro ⟨values, rest, hstar, h⟩
    split at h
    · rename_i hfew
      simp only [emit_bind_outcome, fail_outcome, Outcome.failed.injEq] at h
      exact ⟨values, rest, hstar, hfew, h.symm⟩
    · simp at h
  · rintro ⟨values, rest, hstar, hfew, rfl⟩
    exact ⟨values, rest, hstar, by simp [hfew]⟩

theorem many_unfinished {parser : Parser α} :
    (many limit least parser cursor).outcome = .unfinished ↔
      (star limit parser cursor).outcome = .unfinished := by
  simp only [many, here_bind, bind_unfinished, or_iff_left_iff_imp]
  rintro ⟨values, rest, -, h⟩
  split at h <;> simp at h

theorem many_outcome (limit least : Nat) (parser : Parser α) (cursor : Cursor) :
    (many limit least parser cursor).outcome = match (star limit parser cursor).outcome with
      | .matched values rest =>
        if values.length < least then
          .failed (.composite cursor (.tooFew cursor.index least values.length))
        else .matched values rest
      | outcome => outcome := by
  simp only [many, here_bind, bind_outcome]
  cases (star limit parser cursor).outcome with
  | matched values rest =>
    simp only
    split <;> rfl
  | _ => rfl

-- ---------------------------------------------------------------------------
-- Chains
-- ---------------------------------------------------------------------------

variable {item : Parser α} {link : Parser β} {dangling : Nat → Event} {reason : Nat → Reason}

theorem linked_matched :
    (linked dangling link item cursor).outcome = .matched pair rest ↔
      ∃ middle, (link cursor).outcome = .matched pair.1 middle ∧
        (item middle).outcome = .matched pair.2 rest := by
  obtain ⟨connection, value⟩ := pair
  simp only [linked, here_bind, bind_matched, onFailure_matched, fail_outcome, pure_outcome,
    Outcome.matched.injEq, Prod.mk.injEq, reduceCtorEq, and_false, exists_false, or_false]
  constructor
  · rintro ⟨_, middle, hlink, _, _, hitem, ⟨rfl, rfl⟩, rfl⟩
    exact ⟨middle, hlink, hitem⟩
  · rintro ⟨middle, hlink, hitem⟩
    exact ⟨_, middle, hlink, _, _, hitem, ⟨rfl, rfl⟩, rfl⟩

theorem linked_failed :
    (linked dangling link item cursor).outcome = .failed failure ↔
      (link cursor).outcome = .failed failure ∨
        ∃ connection middle, (link cursor).outcome = .matched connection middle ∧
          (item middle).outcome = .failed failure := by
  simp [linked, bind_failed, onFailure_failed]

theorem linked_unfinished :
    (linked dangling link item cursor).outcome = .unfinished ↔
      (link cursor).outcome = .unfinished ∨
        ∃ connection middle, (link cursor).outcome = .matched connection middle ∧
          (item middle).outcome = .unfinished := by
  simp [linked, bind_unfinished, onFailure_unfinished]

theorem chain_outcome (reason : Nat → Reason) (dangling : Nat → Event) (item : Parser α)
    (link : Parser β) (limit : Nat) (cursor : Cursor) :
    (chain limit reason dangling item link cursor).outcome = match (item cursor).outcome with
      | .matched first middle =>
        (star limit (linked dangling link item) middle).outcome.map fun pairs => (first, pairs)
      | .failed _ => .failed (.composite cursor (reason cursor.index))
      | .unfinished => .unfinished := by
  simp only [chain, here_bind, bind_outcome, onFailure_outcome]
  cases (item cursor).outcome with
  | matched first middle =>
    simp only
    cases (star limit (linked dangling link item) middle).outcome <;> rfl
  | failed failure => rfl
  | unfinished => rfl

theorem chain_matched :
    (chain limit reason dangling item link cursor).outcome = .matched chained rest ↔
      ∃ middle, (item cursor).outcome = .matched chained.1 middle ∧
        (star limit (linked dangling link item) middle).outcome = .matched chained.2 rest := by
  obtain ⟨first, pairs⟩ := chained
  simp only [chain, here_bind, bind_matched, onFailure_matched, fail_outcome, pure_outcome,
    Outcome.matched.injEq, Prod.mk.injEq, reduceCtorEq, and_false, exists_false, or_false]
  constructor
  · rintro ⟨_, middle, hitem, _, _, hstar, ⟨rfl, rfl⟩, rfl⟩
    exact ⟨middle, hitem, hstar⟩
  · rintro ⟨middle, hitem, hstar⟩
    exact ⟨_, middle, hitem, _, _, hstar, ⟨rfl, rfl⟩, rfl⟩

theorem chain_failed :
    (chain limit reason dangling item link cursor).outcome = .failed failure ↔
      (∃ cause, (item cursor).outcome = .failed cause) ∧
        failure = .composite cursor (reason cursor.index) := by
  simp [chain, bind_failed, onFailure_failed, star_not_failed, @eq_comm _ failure]

theorem chain_unfinished :
    (chain limit reason dangling item link cursor).outcome = .unfinished ↔
      (item cursor).outcome = .unfinished ∨
        ∃ first middle, (item cursor).outcome = .matched first middle ∧
          (star limit (linked dangling link item) middle).outcome = .unfinished := by
  simp [chain, bind_unfinished, onFailure_unfinished, onFailure_matched]

theorem interpose_outcome (limit : Nat) (item separator : Parser α) (cursor : Cursor) :
    (interpose limit item separator cursor).outcome =
      (chain limit .noItem .danglingSeparator item separator cursor).outcome.map fun chained =>
        chained.1 :: chained.2.flatMap fun (link, item) => [link, item] := by
  rw [interpose, bind_outcome]
  cases (chain limit .noItem .danglingSeparator item separator cursor).outcome <;> rfl

theorem interpose_matched {item separator : Parser α} :
    (interpose limit item separator cursor).outcome = .matched values rest ↔
      ∃ first pairs,
        (chain limit .noItem .danglingSeparator item separator cursor).outcome =
          .matched (first, pairs) rest ∧
        values = first :: pairs.flatMap fun (separator, item) => [separator, item] := by
  simp only [interpose, bind_matched, Prod.exists, pure_outcome, Outcome.matched.injEq]
  constructor
  · rintro ⟨first, pairs, _, h, rfl, rfl⟩
    exact ⟨first, pairs, h, rfl⟩
  · rintro ⟨first, pairs, h, rfl⟩
    exact ⟨first, pairs, rest, h, rfl, rfl⟩

theorem interpose_failed {item separator : Parser α} :
    (interpose limit item separator cursor).outcome = .failed failure ↔
      (∃ cause, (item cursor).outcome = .failed cause) ∧
        failure = .composite cursor (.noItem cursor.index) := by
  simp [interpose, bind_failed, chain_failed]

theorem interpose_unfinished {item separator : Parser α} :
    (interpose limit item separator cursor).outcome = .unfinished ↔
      (chain limit .noItem .danglingSeparator item separator cursor).outcome = .unfinished := by
  simp [interpose, bind_unfinished]

theorem chainl_outcome (limit : Nat) (operand : Parser α) (operator : Parser (α → α → α))
    (cursor : Cursor) :
    (chainl limit operand operator cursor).outcome =
      (chain limit .noOperand .danglingOperator operand operator cursor).outcome.map fun chained =>
        chained.2.foldl (fun joined (combine, right) => combine joined right) chained.1 := by
  rw [chainl, bind_outcome]
  cases (chain limit .noOperand .danglingOperator operand operator cursor).outcome <;> rfl

theorem chainl_matched {operand : Parser α} {operator : Parser (α → α → α)} :
    (chainl limit operand operator cursor).outcome = .matched value rest ↔
      ∃ first pairs,
        (chain limit .noOperand .danglingOperator operand operator cursor).outcome =
          .matched (first, pairs) rest ∧
        value = pairs.foldl (fun joined (combine, right) => combine joined right) first := by
  simp only [chainl, bind_matched, Prod.exists, pure_outcome, Outcome.matched.injEq]
  constructor
  · rintro ⟨first, pairs, _, h, rfl, rfl⟩
    exact ⟨first, pairs, h, rfl⟩
  · rintro ⟨first, pairs, h, rfl⟩
    exact ⟨first, pairs, rest, h, rfl, rfl⟩

theorem chainl_failed {operand : Parser α} {operator : Parser (α → α → α)} :
    (chainl limit operand operator cursor).outcome = .failed failure ↔
      (∃ cause, (operand cursor).outcome = .failed cause) ∧
        failure = .composite cursor (.noOperand cursor.index) := by
  simp [chainl, bind_failed, chain_failed]

theorem chainl_unfinished {operand : Parser α} {operator : Parser (α → α → α)} :
    (chainl limit operand operator cursor).outcome = .unfinished ↔
      (chain limit .noOperand .danglingOperator operand operator cursor).outcome = .unfinished := by
  simp [chainl, bind_unfinished]

-- ---------------------------------------------------------------------------
-- Parsers that change what another does
-- ---------------------------------------------------------------------------

section
variable {parser : Parser α} {step : Cursor → α → Cursor → Except Failure (β × Cursor)}

theorem mapState_matched :
    (parser.mapState step cursor).outcome = .matched value rest ↔
      ∃ inner middle, (parser cursor).outcome = .matched inner middle ∧
        step cursor inner middle = .ok (value, rest) := by
  simp only [mapState, here_bind, bind_matched]
  refine exists_congr fun inner => exists_congr fun middle => and_congr_right fun _ => ?_
  cases step cursor inner middle <;> simp [bind_outcome, Prod.ext_iff]

theorem mapState_failed :
    (parser.mapState step cursor).outcome = .failed failure ↔
      (parser cursor).outcome = .failed failure ∨
        ∃ inner middle, (parser cursor).outcome = .matched inner middle ∧
          step cursor inner middle = .error failure := by
  simp only [mapState, here_bind, bind_failed]
  refine or_congr_right (exists_congr fun inner => exists_congr fun middle =>
    and_congr_right fun _ => ?_)
  cases step cursor inner middle <;> simp [bind_outcome]

theorem mapState_unfinished :
    (parser.mapState step cursor).outcome = .unfinished ↔
      (parser cursor).outcome = .unfinished := by
  simp only [mapState, here_bind, bind_unfinished, or_iff_left_iff_imp]
  rintro ⟨inner, middle, -, h⟩
  cases hstep : step cursor inner middle <;> simp [hstep, bind_outcome] at h

end

theorem filter_matched {parser : Parser α} :
    (parser.filter test message cursor).outcome = .matched value rest ↔
      (parser cursor).outcome = .matched value rest ∧ test value = true := by
  simp only [filter, here_bind, bind_matched]
  constructor
  · rintro ⟨first, middle, h, h'⟩
    split at h'
    · rename_i htest
      simp only [pure_outcome, Outcome.matched.injEq] at h'
      obtain ⟨rfl, rfl⟩ := h'
      exact ⟨h, htest⟩
    · simp at h'
  · rintro ⟨h, htest⟩
    exact ⟨value, rest, h, by simp [htest]⟩

theorem filter_failed {parser : Parser α} :
    (parser.filter test message cursor).outcome = .failed failure ↔
      (parser cursor).outcome = .failed failure ∨
        (∃ value rest, (parser cursor).outcome = .matched value rest ∧ test value = false) ∧
          failure = .composite cursor (.said message) := by
  simp only [filter, here_bind, bind_failed]
  refine or_congr_right ?_
  constructor
  · rintro ⟨value, rest, h, h'⟩
    split at h'
    · simp at h'
    · rename_i htest
      simp only [fail_outcome, Outcome.failed.injEq] at h'
      exact ⟨⟨value, rest, h, by simpa using htest⟩, h'.symm⟩
  · rintro ⟨⟨value, rest, h, htest⟩, rfl⟩
    exact ⟨value, rest, h, by simp [htest]⟩

theorem filter_unfinished {parser : Parser α} :
    (parser.filter test message cursor).outcome = .unfinished ↔
      (parser cursor).outcome = .unfinished := by
  simp only [filter, here_bind, bind_unfinished, or_iff_left_iff_imp]
  rintro ⟨value, rest, -, h⟩
  split at h <;> simp at h

theorem indexed_matched {parser : Parser α} :
    (parser.indexed cursor).outcome = .matched found rest ↔
      (parser cursor).outcome = .matched found.1 rest ∧
        found.2 = { source := cursor.source, start := cursor.index, stop := rest.index } := by
  obtain ⟨value, span⟩ := found
  simp only [indexed, here_bind, bind_matched, pure_outcome, Outcome.matched.injEq, Prod.mk.injEq]
  constructor
  · rintro ⟨_, _, h, ⟨rfl, rfl⟩, rfl⟩
    exact ⟨h, rfl⟩
  · rintro ⟨h, rfl⟩
    exact ⟨_, _, h, ⟨rfl, rfl⟩, rfl⟩

@[simp] theorem indexed_failed {parser : Parser α} :
    (parser.indexed cursor).outcome = .failed failure ↔
      (parser cursor).outcome = .failed failure := by
  simp [indexed, bind_failed]

@[simp] theorem indexed_unfinished {parser : Parser α} :
    (parser.indexed cursor).outcome = .unfinished ↔ (parser cursor).outcome = .unfinished := by
  simp [indexed, bind_unfinished]

-- ---------------------------------------------------------------------------
-- Parsers without parts
-- ---------------------------------------------------------------------------

theorem character_matched :
    (character expected cursor).outcome = .matched value rest ↔
      cursor.current = some expected ∧ value = expected ∧ rest = cursor.advance 1 := by
  simp only [character, here_bind]
  split <;> rename_i h <;> simp [h, bind_outcome, eq_comm]

theorem character_failed :
    (character expected cursor).outcome = .failed failure ↔
      cursor.current ≠ some expected ∧
        failure = .new cursor (.character expected cursor.current cursor.index) := by
  simp only [character, here_bind]
  split <;> rename_i h <;> simp [h, bind_outcome, eq_comm]

theorem literal_matched :
    (literal expected cursor).outcome = .matched value rest ↔
      expected <+: cursor.remainder ∧ value = expected ∧
        rest = cursor.skipBytes expected.byteSize := by
  simp only [literal, here_bind, ← List.isPrefixOf_iff_prefix]
  split <;> rename_i h <;> simp [h, bind_outcome, eq_comm]

theorem literal_failed :
    (literal expected cursor).outcome = .failed failure ↔
      ¬expected <+: cursor.remainder ∧
        failure = .new cursor
          (.literal expected (cursor.remainder.take expected.length) cursor.index) := by
  simp only [literal, here_bind, ← List.isPrefixOf_iff_prefix]
  split <;> rename_i h <;> simp [h, bind_outcome, eq_comm]

theorem pattern_matched {searched : Pattern} :
    (pattern searched cursor).outcome = .matched value rest ↔
      ∃ length, searched.matchStart? cursor.remainder = some (value, length) ∧
        rest = cursor.skipBytes (Text.byteSize (cursor.remainder.take length)) := by
  simp only [pattern, here_bind]
  cases searched.matchStart? cursor.remainder with
  | none => simp
  | some found => simp [bind_outcome, Prod.ext_iff, and_assoc, @eq_comm _ rest]

theorem pattern_failed {searched : Pattern} :
    (pattern searched cursor).outcome = .failed failure ↔
      searched.matchStart? cursor.remainder = none ∧
        failure = .new cursor (.pattern searched.shown cursor.index) := by
  simp only [pattern, here_bind]
  cases searched.matchStart? cursor.remainder <;> simp [bind_outcome, eq_comm]

end Parser

end Descent
