import Mathlib
import Descent.Grammar.Leaf
import Descent.Proofs.Grammar.Alike

/-!
# Sequences and choices may be regrouped

A sequence inside a sequence and a choice inside a choice may be written out in
their place. Two rows of parsers come to what the first row comes to and then
the second (`each_append`), two rows of alternatives to what the first comes to
or, where that fails, the second (`choose_append`). A failure that is anchored
twice is the one that is anchored once, at the outer entry and for the reason of
the innermost part, so that failures are the same ones, too.
-/

namespace Descent

namespace Outcome

def andThen : Outcome α → (α → Cursor → Outcome β) → Outcome β
  | .matched value rest, next => next value rest
  | .failed failure, _ => .failed failure
  | .unfinished, _ => .unfinished

def orElse : Outcome α → Outcome α → Outcome α
  | .failed _, next => next
  | outcome, _ => outcome

def anchored (entry : Cursor) : Outcome α → Outcome α
  | .failed failure => .failed (failure.anchored entry)
  | outcome => outcome

theorem map_congr {outcome : Outcome α} {f g : α → β}
    (h : ∀ value rest, outcome = .matched value rest → f value = g value) :
    outcome.map f = outcome.map g := by
  cases outcome with
  | matched value rest => simp only [map, h value rest rfl]
  | _ => rfl

theorem andThen_matched {outcome : Outcome α} {next : α → Cursor → Outcome β} :
    outcome.andThen next = .matched value rest ↔
      ∃ first middle, outcome = .matched first middle ∧ next first middle = .matched value rest := by
  cases outcome <;> simp [andThen, and_assoc]

theorem anchored_matched {outcome : Outcome α} :
    outcome.anchored entry = .matched value rest ↔ outcome = .matched value rest := by
  cases outcome <;> simp [anchored]

theorem orElse_assoc (first second third : Outcome α) :
    (first.orElse second).orElse third = first.orElse (second.orElse third) := by
  cases first <;> rfl

end Outcome

namespace Parser

variable {α β γ : Type} {cursor rest : Cursor}

theorem id_map (parser : Parser α) : id <$> parser = parser := by
  funext cursor
  show Parser.bind parser pure cursor = parser cursor
  unfold Parser.bind
  generalize parser cursor = run
  obtain ⟨events, outcome⟩ := run
  cases outcome with
  | matched value rest => exact congrArg (Run.mk · (.matched value rest)) (List.append_nil events)
  | _ => rfl

-- ---------------------------------------------------------------------------
-- Rows of parsers
-- ---------------------------------------------------------------------------

theorem each_cons_outcome (parser : Parser α) (parsers : List (Parser α)) (cursor : Cursor) :
    (each (parser :: parsers) cursor).outcome = (parser cursor).outcome.andThen
      fun value middle => (each parsers middle).outcome.map (value :: ·) := by
  simp only [each, bind_outcome]
  cases (parser cursor).outcome with
  | matched value middle =>
    simp only [Outcome.andThen]
    cases (each parsers middle).outcome <;> rfl
  | _ => rfl

theorem each_append (parsers later : List (Parser α)) (cursor : Cursor) :
    (each (parsers ++ later) cursor).outcome = (each parsers cursor).outcome.andThen
      fun values middle => (each later middle).outcome.map (values ++ ·) := by
  induction parsers generalizing cursor with
  | nil => exact (Outcome.map_id _).symm
  | cons parser parsers ih =>
    simp only [List.cons_append, each_cons_outcome, ih]
    cases (parser cursor).outcome with
    | matched value middle =>
      simp only [Outcome.andThen]
      cases (each parsers middle).outcome with
      | matched values middle' => exact Outcome.map_map _ _ _
      | _ => rfl
    | _ => rfl

theorem each_map (parsers : List (Parser α)) (f : α → β) (cursor : Cursor) :
    (each (parsers.map (f <$> ·)) cursor).outcome = (each parsers cursor).outcome.map (·.map f) := by
  induction parsers generalizing cursor with
  | nil => rfl
  | cons parser parsers ih =>
    simp only [List.map_cons, each_cons_outcome, map_outcome, ih]
    cases (parser cursor).outcome with
    | matched value middle =>
      simp only [Outcome.andThen, Outcome.map]
      cases (each parsers middle).outcome <;> rfl
    | _ => rfl

theorem each_singleton (parser : Parser α) (cursor : Cursor) :
    (each [parser] cursor).outcome = (parser cursor).outcome.map ([·]) := by
  rw [each_cons_outcome]
  cases (parser cursor).outcome <;> rfl

theorem sequence_outcome (parsers : List (Parser α)) (cursor : Cursor) :
    (sequence parsers cursor).outcome = (each parsers cursor).outcome.anchored cursor := by
  simp only [sequence, Parser.anchored, here_bind, onFailure_outcome]
  cases (each parsers cursor).outcome <;> rfl

theorem Threads.length_eq {parsers : List (Parser α)} (h : Threads parsers cursor values rest) :
    values.length = parsers.length := by
  induction h with
  | nil => rfl
  | cons _ _ ih => rw [List.length_cons, List.length_cons, ih]

def threeRows (before inner after : List (Parser α)) (cursor : Cursor) :
    Outcome (List α × List α × List α) :=
  ((each before cursor).outcome.andThen fun values middle =>
    (each inner middle).outcome.andThen fun values' middle' =>
      (each after middle').outcome.map fun values'' => (values, values', values'')).anchored cursor

theorem sequence_flat (before inner after : List (Parser α)) (cursor : Cursor) :
    (sequence (before ++ inner ++ after) cursor).outcome =
      (threeRows before inner after cursor).map
        fun (values, values', values'') => values ++ values' ++ values'' := by
  simp only [threeRows, sequence_outcome, List.append_assoc, each_append]
  cases (each before cursor).outcome with
  | matched values middle =>
    simp only [Outcome.andThen]
    cases (each inner middle).outcome with
    | matched values' middle' =>
      dsimp only
      cases (each after middle').outcome <;> rfl
    | _ => rfl
  | _ => rfl

theorem sequence_nested (before inner after : List (Parser α)) (f : α → β) (g : List α → β)
    (cursor : Cursor) :
    (sequence (before.map (f <$> ·) ++ [g <$> sequence inner] ++ after.map (f <$> ·))
        cursor).outcome =
      (threeRows before inner after cursor).map
        fun (values, values', values'') => values.map f ++ [g values'] ++ values''.map f := by
  simp only [threeRows, sequence_outcome, List.append_assoc, each_append, each_map, each_singleton,
    map_outcome]
  cases (each before cursor).outcome with
  | matched values middle =>
    simp only [Outcome.andThen, Outcome.map]
    -- a failure of the inner sequence is anchored at its own entry first
    cases (each inner middle).outcome with
    | matched values' middle' =>
      simp only [Outcome.anchored]
      cases (each after middle').outcome <;> rfl
    | _ => rfl
  | _ => rfl

theorem threeRows_length {before inner after : List (Parser α)}
    (h : threeRows before inner after cursor = .matched (values, values', values'') rest) :
    values.length = before.length := by
  obtain ⟨found, middle, hbefore, hlater⟩ := Outcome.andThen_matched.mp (Outcome.anchored_matched.mp h)
  obtain ⟨found', middle', -, hafter⟩ := Outcome.andThen_matched.mp hlater
  obtain ⟨found'', -, hvalues⟩ := Outcome.map_matched.mp hafter
  cases hvalues
  exact (each_matched.mp hbefore).length_eq

def spliced (values : List (α ⊕ List α)) : List α := values.flatMap (Sum.elim ([·]) id)

theorem spliced_inr (before inner after : List α) :
    spliced (before.map .inl ++ [.inr inner] ++ after.map .inl) = before ++ inner ++ after := by
  simp [spliced, List.flatMap_map]

theorem sequence_spliced (before inner after : List (Parser α)) (cursor : Cursor) :
    (sequence (before.map (Sum.inl <$> ·) ++ [Sum.inr <$> sequence inner] ++
        after.map (Sum.inl <$> ·)) cursor).outcome.map spliced =
      (sequence (before ++ inner ++ after) cursor).outcome := by
  rw [sequence_nested, sequence_flat, Outcome.map_map]
  exact Outcome.map_congr fun ⟨values, values', values''⟩ _ _ => spliced_inr values values' values''

-- ---------------------------------------------------------------------------
-- Rows of alternatives
-- ---------------------------------------------------------------------------

theorem firstOf_cons_outcome (number : Nat) (parser : Parser α) (parsers : List (Parser α))
    (cursor : Cursor) :
    (firstOf number (parser :: parsers) cursor).outcome =
      (parser cursor).outcome.orElse (firstOf (number + 1) parsers cursor).outcome := by
  simp only [firstOf, onFailure_outcome, emit_bind_outcome]
  cases (parser cursor).outcome <;> rfl

theorem firstOf_number (number number' : Nat) (parsers : List (Parser α)) (cursor : Cursor) :
    (firstOf number parsers cursor).outcome = (firstOf number' parsers cursor).outcome := by
  induction parsers generalizing number number' with
  | nil => rfl
  | cons parser parsers ih => rw [firstOf_cons_outcome, firstOf_cons_outcome, ih]

theorem choose_cons_outcome (parser : Parser α) (parsers : List (Parser α)) (cursor : Cursor) :
    (choose (parser :: parsers) cursor).outcome =
      (parser cursor).outcome.orElse (choose parsers cursor).outcome := by
  rw [choose, firstOf_cons_outcome, firstOf_number 1 0]
  rfl

theorem choose_map (parsers : List (Parser α)) (f : α → β) (cursor : Cursor) :
    (choose (parsers.map (f <$> ·)) cursor).outcome = (choose parsers cursor).outcome.map f := by
  induction parsers with
  | nil => rfl
  | cons parser parsers ih =>
    rw [List.map_cons, choose_cons_outcome, choose_cons_outcome, map_outcome, ih]
    cases (parser cursor).outcome <;> rfl

theorem choose_append (parsers later : List (Parser α)) (cursor : Cursor) :
    (choose (parsers ++ later) cursor).outcome =
      (choose parsers cursor).outcome.orElse (choose later cursor).outcome := by
  unfold choose
  generalize 0 = number
  induction parsers generalizing number with
  | nil => rfl
  | cons parser parsers ih =>
    simp only [List.cons_append, firstOf_cons_outcome, ih, Outcome.orElse_assoc]
    rw [firstOf_number (number + 1) number later]

theorem choose_singleton_orElse (parser : Parser α) (cursor : Cursor) (outcome : Outcome α) :
    (choose [parser] cursor).outcome.orElse outcome = (parser cursor).outcome.orElse outcome := by
  rw [choose, firstOf_cons_outcome, Outcome.orElse_assoc]
  rfl

theorem choose_nested (before inner after : List (Parser α)) (cursor : Cursor) :
    (choose (before ++ [choose inner] ++ after) cursor).outcome =
      (choose (before ++ inner ++ after) cursor).outcome := by
  simp only [List.append_assoc, choose_append, choose_singleton_orElse]

end Parser

/-- The list with the elements of the list at a place in its place; any other value as it is. -/
def Value.spliced (place : Nat) : Value → Value
  | .list values =>
    match values.drop place with
    | .list inner :: later => .list (values.take place ++ inner ++ later)
    | _ => .list values
  | value => value

theorem Value.spliced_list (before inner after : List Value) :
    (Value.list (before ++ [.list inner] ++ after)).spliced before.length =
      .list (before ++ inner ++ after) := by
  simp [Value.spliced]

theorem Parser.sequence_spliced_value (before inner after : List (Parser Value)) (cursor : Cursor) :
    ((Value.list <$> sequence (before ++ [Value.list <$> sequence inner] ++ after))
        cursor).outcome.map (Value.spliced before.length) =
      ((Value.list <$> sequence (before ++ inner ++ after)) cursor).outcome := by
  have hnested := sequence_nested before inner after id Value.list cursor
  simp only [id_map, List.map_id', List.map_id] at hnested
  rw [map_outcome, map_outcome, hnested, sequence_flat, Outcome.map_map, Outcome.map_map,
    Outcome.map_map]
  refine Outcome.map_congr fun ⟨values, values', values''⟩ rest hmatched => ?_
  rw [← threeRows_length hmatched]
  exact Value.spliced_list values values' values''

namespace Grammar

variable {rules : Rules} {source : Text} {before inner after : List Grammar} {cursor : Cursor}
  {limit : Nat}

theorem mem_inner (hstays : ∀ part ∈ before ++ inner ++ after, part.Every rules Stays) :
    ∀ part ∈ inner, part.Every rules Stays := by
  intro part hpart
  exact hstays part (List.mem_append_left _ (List.mem_append_right _ hpart))

theorem mem_nested {nested : Grammar} (hinner : nested.Every rules Stays)
    (hstays : ∀ part ∈ before ++ inner ++ after, part.Every rules Stays) :
    ∀ part ∈ before ++ [nested] ++ after, part.Every rules Stays := by
  intro part hpart
  simp only [List.mem_append, List.mem_singleton] at hpart
  obtain (hpart | rfl) | hpart := hpart
  · exact hstays part (by simp [hpart])
  · exact hinner
  · exact hstays part (by simp [hpart])

theorem row_alike {nested : Grammar} {opened : Parser Value}
    (hstays : ∀ part ∈ before ++ inner ++ after, part.Every rules Stays)
    (hnested : Parser.Alike source (nested.parser rules) opened) :
    List.Forall₂ (Parser.Alike source) ((before ++ [nested] ++ after).map (parser rules))
      (before.map (parser rules) ++ [opened] ++ after.map (parser rules)) := by
  have hbefore : ∀ part ∈ before, part.Every rules Stays :=
    fun part hpart => hstays part (by simp [hpart])
  have hafter : ∀ part ∈ after, part.Every rules Stays :=
    fun part hpart => hstays part (by simp [hpart])
  rw [List.map_append, List.map_append]
  exact List.rel_append (List.rel_append (parsers_alike_self hbefore) (.cons hnested .nil))
    (parsers_alike_self hafter)

theorem list_nested_outcome (hstays : ∀ part ∈ before ++ inner ++ after, part.Every rules Stays)
    (hcursor : cursor.OnSymbol) :
    ((list (before ++ [list inner] ++ after)).parser rules cursor).outcome.map
        (Value.spliced before.length) =
      ((list (before ++ inner ++ after)).parser rules cursor).outcome := by
  have hinner : (list inner).Every rules Stays := stays_of_parts trivial (mem_inner hstays)
  have hnested : (list (before ++ [list inner] ++ after)).Every rules Stays :=
    stays_of_parts trivial (mem_nested hinner hstays)
  have hflat : (list (before ++ inner ++ after)).Every rules Stays := stays_of_parts trivial hstays
  have hlimit := Nat.lt_succ_self cursor.source.length
  have hopened := (parser_alike hnested hlimit).trans
    (.map (.sequence (row_alike hstays (parser_alike hinner hlimit))) Value.list)
  rw [hopened.outcome_eq (.rfl hcursor), (parser_alike hflat hlimit).outcome_eq (.rfl hcursor)]
  have hspliced := Parser.sequence_spliced_value (before.map (parser rules))
    (inner.map (parser rules)) (after.map (parser rules)) cursor
  rw [List.length_map] at hspliced
  simpa only [assemble, List.map_append] using hspliced

theorem choose_nested_outcome (hstays : ∀ part ∈ before ++ inner ++ after, part.Every rules Stays)
    (hcursor : cursor.OnSymbol) :
    ((choose (before ++ [choose inner] ++ after)).parser rules cursor).outcome =
      ((choose (before ++ inner ++ after)).parser rules cursor).outcome := by
  have hinner : (choose inner).Every rules Stays := stays_of_parts trivial (mem_inner hstays)
  have hnested : (choose (before ++ [choose inner] ++ after)).Every rules Stays :=
    stays_of_parts trivial (mem_nested hinner hstays)
  have hflat : (choose (before ++ inner ++ after)).Every rules Stays :=
    stays_of_parts trivial hstays
  have hlimit := Nat.lt_succ_self cursor.source.length
  have hopened := (parser_alike hnested hlimit).trans
    (.choose (row_alike hstays (parser_alike hinner hlimit)))
  rw [hopened.outcome_eq (.rfl hcursor), (parser_alike hflat hlimit).outcome_eq (.rfl hcursor)]
  simpa only [assemble, List.map_append] using Parser.choose_nested (before.map (parser rules))
    (inner.map (parser rules)) (after.map (parser rules)) cursor

/-- A sequence in a sequence and a choice in a choice come to what they come to written out: the
values are the same, the elements of the inner list standing in its place, the cursors are the same
and so are the failures. -/
theorem regrouping_unseen :
    (∀ {α : Type} (before inner after : List (Parser α)) (cursor : Cursor),
      (Parser.sequence (before.map (Sum.inl <$> ·) ++ [Sum.inr <$> Parser.sequence inner] ++
          after.map (Sum.inl <$> ·)) cursor).outcome.map Parser.spliced =
        (Parser.sequence (before ++ inner ++ after) cursor).outcome ∧
      (Parser.choose (before ++ [Parser.choose inner] ++ after) cursor).outcome =
        (Parser.choose (before ++ inner ++ after) cursor).outcome) ∧
    ∀ (rules : Rules) (before inner after : List Grammar) (cursor : Cursor),
      (∀ part ∈ before ++ inner ++ after, part.Every rules Stays) → cursor.OnSymbol →
      ((list (before ++ [list inner] ++ after)).parser rules cursor).outcome.map
          (Value.spliced before.length) =
        ((list (before ++ inner ++ after)).parser rules cursor).outcome ∧
      ((choose (before ++ [choose inner] ++ after)).parser rules cursor).outcome =
        ((choose (before ++ inner ++ after)).parser rules cursor).outcome := by
  constructor
  · intro α before inner after cursor
    exact ⟨Parser.sequence_spliced before inner after cursor,
      Parser.choose_nested before inner after cursor⟩
  · intro rules before inner after cursor hstays hcursor
    exact ⟨list_nested_outcome hstays hcursor, choose_nested_outcome hstays hcursor⟩

/-- A part of the inner sequence that fails further on in the text than anything was read. -/
def late : Grammar := .leaf (Leaf.failAhead 2 "late".toList)

theorem late_stays : ∀ part ∈ [.character 'a'] ++ [.character 'é', late] ++ [.character 'c'],
    part.Every [] Stays := by
  have hlate : late.Stays := by
    intro source cursor value target _ htarget
    cases htarget
  intro part hpart
  simp only [List.cons_append, List.nil_append, List.mem_cons, List.not_mem_nil, or_false] at hpart
  obtain rfl | rfl | rfl | rfl := hpart
  · exact character_stays [] 'a'
  · exact character_stays [] 'é'
  · exact every_of_calls hlate (by simp [late])
  · exact character_stays [] 'c'

theorem regrouping_unseen_late :
    ((list [.character 'a', list [.character 'é', late], .character 'c']).parser []
        (.start ['a', 'é', 'c', 'd'])).outcome.map (Value.spliced 1) =
      .failed (.composite (.start ['a', 'é', 'c', 'd']) (.said "late".toList)) ∧
    ((choose [.character 'a', choose [.character 'é', late], .character 'c']).parser []
        ⟨['a', 'é', 'c', 'd'], 3⟩).outcome =
      .matched (.char 'c') ⟨['a', 'é', 'c', 'd'], 4⟩ := by
  have hsequence : ((list ([.character 'a'] ++ [.character 'é', late] ++ [.character 'c'])).parser []
      (.start ['a', 'é', 'c', 'd'])).outcome =
      .failed (.composite (.start ['a', 'é', 'c', 'd']) (.said "late".toList)) := by cbv
  have hchoice : ((choose ([.character 'a'] ++ [.character 'é', late] ++ [.character 'c'])).parser []
      ⟨['a', 'é', 'c', 'd'], 3⟩).outcome = .matched (.char 'c') ⟨['a', 'é', 'c', 'd'], 4⟩ := by cbv
  rw [← hsequence, ← hchoice]
  exact ⟨(regrouping_unseen.2 [] [.character 'a'] [.character 'é', late] [.character 'c']
      (.start ['a', 'é', 'c', 'd']) late_stays (Cursor.onSymbol_start _)).1,
    (regrouping_unseen.2 [] [.character 'a'] [.character 'é', late] [.character 'c']
      ⟨['a', 'é', 'c', 'd'], 3⟩ late_stays ⟨['a', 'é'], ['c', 'd'], rfl, rfl⟩).2⟩

end Grammar

end Descent
