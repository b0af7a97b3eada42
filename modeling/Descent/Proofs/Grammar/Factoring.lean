import Mathlib
import Descent.Proofs.Grammar.Regrouping

/-!
# Alternatives that begin alike may share their beginning

A choice of sequences that begin with the same parsers runs the beginning once
for every alternative, from the entry. The sequence of the beginning and a choice
of the ends runs it once and goes back to where it stopped. Where the beginning
matches, both come to what the choice of the ends comes to behind it
(`choose_rows`); they differ in the failure they report, and where there is no
alternative at all: the choice fails at once, whether or not the beginning ends.

The same does not hold of alternatives that end alike, since a choice does not
come back to an alternative for what stands behind it.
-/

namespace Descent

namespace Parser

variable {α β : Type} {cursor middle : Cursor} {values : List α} {beginning : List (Parser α)}

theorem sequence_append_singleton (beginning : List (Parser α)) (last : Parser β) (f : β → α)
    (cursor : Cursor) :
    (sequence (beginning ++ [f <$> last]) cursor).outcome =
      ((each beginning cursor).outcome.andThen fun values middle =>
        (last middle).outcome.map fun value => values ++ [f value]).anchored cursor := by
  rw [sequence_outcome, each_append]
  simp only [each_singleton, map_outcome, Outcome.map_map]

-- ---------------------------------------------------------------------------
-- Three ways a beginning can go
-- ---------------------------------------------------------------------------

theorem choose_rows (hbeginning : (each beginning cursor).outcome = .matched values middle)
    (alternatives : List (Parser β)) (f : β → α) :
    (choose (alternatives.map fun last => sequence (beginning ++ [f <$> last])) cursor).outcome =
      ((choose alternatives middle).outcome.map fun value => values ++ [f value]).orElse
        (.failed (.composite cursor (.noAlternative cursor.index))) := by
  induction alternatives with
  | nil => rfl
  | cons last alternatives ih =>
    simp only [List.map_cons, choose_cons_outcome, ih, sequence_append_singleton, hbeginning,
      Outcome.andThen]
    cases (last middle).outcome <;> rfl

theorem choose_rows_failed {failure : Failure}
    (hbeginning : (each beginning cursor).outcome = .failed failure)
    (alternatives : List (Parser β)) (f : β → α) :
    (choose (alternatives.map fun last => sequence (beginning ++ [f <$> last])) cursor).outcome =
      .failed (.composite cursor (.noAlternative cursor.index)) := by
  induction alternatives with
  | nil => rfl
  | cons last alternatives ih =>
    simp only [List.map_cons, choose_cons_outcome, ih, sequence_append_singleton, hbeginning]
    rfl

theorem choose_rows_unfinished (hbeginning : (each beginning cursor).outcome = .unfinished)
    {alternatives : List (Parser β)} (hne : alternatives ≠ []) (f : β → α) :
    (choose (alternatives.map fun last => sequence (beginning ++ [f <$> last])) cursor).outcome =
      .unfinished := by
  obtain ⟨last, alternatives, rfl⟩ := List.exists_cons_of_ne_nil hne
  simp only [List.map_cons, choose_cons_outcome, sequence_append_singleton, hbeginning]
  rfl

-- ---------------------------------------------------------------------------
-- The two forms
-- ---------------------------------------------------------------------------

/-- What a choice of sequences and the sequence with a choice at its end come to. `idle` says that
there is nothing to choose from and the beginning does not end. -/
structure Factored (idle : Prop) (cursor : Cursor) (spread factored : Outcome α) : Prop where
  matched : ∀ value rest, spread = .matched value rest ↔ factored = .matched value rest
  failed : (∃ failure, spread = .failed failure) ↔ (∃ failure, factored = .failed failure) ∨ idle
  composite : ∀ failure, spread = .failed failure ∨ factored = .failed failure →
    failure.kind = .composite ∧ failure.cursor = cursor

namespace Factored

variable {idle : Prop} {spread factored outcome : Outcome α} {reason reason' : Reason}

theorem same (hidle : ¬idle) (hends : ∀ failure, outcome ≠ .failed failure) :
    Factored idle cursor outcome outcome := by
  constructor <;> simp [hidle, hends]

theorem both_failed : Factored idle cursor (.failed (.composite cursor reason) : Outcome α)
    (.failed (.composite cursor reason')) := by
  constructor
  · simp
  · simp
  · rintro failure (h | h) <;> cases h <;> exact ⟨rfl, rfl⟩

theorem idle_failed (hidle : idle) :
    Factored idle cursor (.failed (.composite cursor reason) : Outcome α) .unfinished := by
  constructor
  · simp
  · simp [hidle]
  · rintro failure (h | h) <;> cases h
    exact ⟨rfl, rfl⟩

theorem map (h : Factored idle cursor spread factored) (f : α → β) :
    Factored idle cursor (spread.map f) (factored.map f) := by
  constructor
  · simp [Outcome.map_matched, h.matched]
  · simpa only [Outcome.map_failed] using h.failed
  · simpa only [Outcome.map_failed] using h.composite

end Factored

theorem choose_factored (beginning : List (Parser α)) (alternatives : List (Parser β)) (f : β → α)
    (cursor : Cursor) :
    Factored (alternatives = [] ∧ (each beginning cursor).outcome = .unfinished) cursor
      (choose (alternatives.map fun last => sequence (beginning ++ [f <$> last])) cursor).outcome
      (sequence (beginning ++ [f <$> choose alternatives]) cursor).outcome := by
  rw [sequence_append_singleton]
  cases hbeginning : (each beginning cursor).outcome with
  | matched values middle =>
    rw [choose_rows hbeginning]
    simp only [Outcome.andThen]
    cases (choose alternatives middle).outcome with
    | matched value rest => exact .same (by simp) (by rintro _ ⟨⟩)
    | failed failure => exact .both_failed
    | unfinished => exact .same (by simp) (by rintro _ ⟨⟩)
  | failed failure =>
    rw [choose_rows_failed hbeginning]
    exact .both_failed
  | unfinished =>
    by_cases hne : alternatives = []
    · subst hne
      exact .idle_failed ⟨rfl, rfl⟩
    · rw [choose_rows_unfinished hbeginning hne]
      exact .same (by simp [hne]) (by rintro _ ⟨⟩)

end Parser

namespace Grammar

variable {rules : Rules} {source : Text} {beginning alternatives : List Grammar} {cursor : Cursor}
  {limit : Nat}

/-- A form of grammar that runs its parts in a row and makes one value of theirs. -/
structure IsRow (row : List Grammar → Grammar) (wrap : List Value → Value) : Prop where
  plain : ∀ parts, (row parts).Plain
  calls : ∀ rules parts, (row parts).calls rules = parts
  assemble : ∀ rules limit part parts,
    (row parts).assemble rules limit part = wrap <$> Parser.sequence (parts.map part)

theorem isRow_tuple : IsRow tuple .tuple := ⟨fun _ => trivial, fun _ _ => rfl, fun _ _ _ _ => rfl⟩

theorem isRow_list : IsRow list .list := ⟨fun _ => trivial, fun _ _ => rfl, fun _ _ _ _ => rfl⟩

section
variable {row : List Grammar → Grammar} {wrap : List Value → Value} (hrow : IsRow row wrap)
include hrow

theorem IsRow.stays {parts : List Grammar} (hparts : ∀ part ∈ parts, part.Every rules Stays) :
    (row parts).Every rules Stays :=
  stays_of_parts (hrow.plain parts) (by rwa [hrow.calls])

theorem IsRow.alike {parts : List Grammar} (hparts : ∀ part ∈ parts, part.Every rules Stays)
    (hlimit : source.length < limit) :
    Parser.Alike source ((row parts).parser rules)
      (wrap <$> Parser.sequence (parts.map (parser rules))) := by
  rw [← hrow.assemble rules limit]
  exact parser_alike (hrow.stays hparts) hlimit

variable (hbeginning : ∀ part ∈ beginning, part.Every rules Stays)
  (halternatives : ∀ part ∈ alternatives, part.Every rules Stays)
include hbeginning halternatives

theorem spread_alike (hlimit : source.length < limit) :
    Parser.Alike source
      ((choose (alternatives.map fun last => row (beginning ++ [last]))).parser rules)
      (Parser.choose ((alternatives.map fun last =>
        Parser.sequence (beginning.map (parser rules) ++ [last.parser rules])).map
          (wrap <$> ·))) := by
  have hrows : ∀ last ∈ alternatives, ∀ part ∈ beginning ++ [last], part.Every rules Stays := by
    intro last hlast part hpart
    rcases List.mem_append.mp hpart with hpart | hpart
    · exact hbeginning part hpart
    · rw [List.mem_singleton.mp hpart]
      exact halternatives last hlast
  have hchoose :
      (choose (alternatives.map fun last => row (beginning ++ [last]))).Every rules Stays := by
    refine stays_of_parts trivial fun part hpart => ?_
    obtain ⟨last, hlast, rfl⟩ := List.mem_map.mp hpart
    exact hrow.stays (hrows last hlast)
  refine (parser_alike hchoose hlimit).trans (.choose ?_)
  rw [List.map_map, List.map_map, List.forall₂_map_left_iff, List.forall₂_map_right_iff,
    List.forall₂_same]
  intro last hlast
  simpa using hrow.alike (hrows last hlast) hlimit

theorem factored_alike (hlimit : source.length < limit) :
    Parser.Alike source ((row (beginning ++ [choose alternatives])).parser rules)
      (wrap <$> Parser.sequence (beginning.map (parser rules) ++
        [Parser.choose (alternatives.map (parser rules))])) := by
  have hchoose : (choose alternatives).Every rules Stays := stays_of_parts trivial halternatives
  have hparts : ∀ part ∈ beginning ++ [choose alternatives], part.Every rules Stays := by
    intro part hpart
    rcases List.mem_append.mp hpart with hpart | hpart
    · exact hbeginning part hpart
    · rwa [List.mem_singleton.mp hpart]
  have hends := List.rel_append (parsers_alike_self hbeginning)
    (.cons (parser_alike hchoose hlimit) .nil)
  refine (hrow.alike hparts hlimit).trans (.map (.sequence ?_) wrap)
  simpa [assemble] using hends

theorem row_factored (hcursor : cursor.OnSymbol) :
    Parser.Factored
      (alternatives = [] ∧ ((row beginning).parser rules cursor).outcome = .unfinished) cursor
      ((choose (alternatives.map fun last => row (beginning ++ [last]))).parser rules
        cursor).outcome
      ((row (beginning ++ [choose alternatives])).parser rules cursor).outcome := by
  have hlimit := Nat.lt_succ_self cursor.source.length
  have hfactored := (Parser.choose_factored (beginning.map (parser rules))
    (alternatives.map (parser rules)) id cursor).map wrap
  simp only [Parser.id_map, List.map_map, List.map_eq_nil_iff] at hfactored
  rw [(spread_alike hrow hbeginning halternatives hlimit).outcome_eq (.rfl hcursor),
    (factored_alike hrow hbeginning halternatives hlimit).outcome_eq (.rfl hcursor),
    (hrow.alike hbeginning hlimit).outcome_eq (.rfl hcursor), Parser.map_unfinished,
    Parser.sequence_unfinished, Parser.choose_map, Parser.map_outcome]
  exact hfactored

end

/-- Alternatives that begin with the same parsers may be written as these parsers and a choice of
what follows them: both forms match alike, with the same values up to the same cursor, and where
they fail, they fail at the entry. -/
theorem choose_shares_beginning :
    (∀ {α β : Type} (beginning : List (Parser α)) (alternatives : List (Parser β))
      (cursor : Cursor),
      Parser.Factored
        (alternatives = [] ∧ (Parser.sequence beginning cursor).outcome = .unfinished) cursor
        (Parser.choose (alternatives.map fun last => Parser.sequence
          (beginning.map (Sum.inl <$> ·) ++ [Sum.inr <$> last])) cursor).outcome
        (Parser.sequence (beginning.map (Sum.inl <$> ·) ++ [Sum.inr <$> Parser.choose alternatives])
          cursor).outcome) ∧
    ∀ (rules : Rules) (beginning alternatives : List Grammar) (cursor : Cursor),
      (∀ part ∈ beginning ++ alternatives, part.Every rules Stays) → cursor.OnSymbol →
      Parser.Factored
        (alternatives = [] ∧ ((tuple beginning).parser rules cursor).outcome = .unfinished) cursor
        ((choose (alternatives.map fun last => tuple (beginning ++ [last]))).parser rules
          cursor).outcome
        ((tuple (beginning ++ [choose alternatives])).parser rules cursor).outcome ∧
      Parser.Factored
        (alternatives = [] ∧ ((list beginning).parser rules cursor).outcome = .unfinished) cursor
        ((choose (alternatives.map fun last => list (beginning ++ [last]))).parser rules
          cursor).outcome
        ((list (beginning ++ [choose alternatives])).parser rules cursor).outcome := by
  constructor
  · intro α β beginning alternatives cursor
    have hfactored := Parser.choose_factored (beginning.map ((Sum.inl : α → α ⊕ β) <$> ·))
      alternatives Sum.inr cursor
    rwa [Parser.each_map, Outcome.map_unfinished, ← Parser.sequence_unfinished] at hfactored
  · intro rules beginning alternatives cursor hstays hcursor
    obtain ⟨hbeginning, halternatives⟩ := List.forall_mem_append.mp hstays
    exact ⟨row_factored isRow_tuple hbeginning halternatives hcursor,
      row_factored isRow_list hbeginning halternatives hcursor⟩

theorem beginning_stays :
    ∀ part ∈ [many (character 'é') 1] ++ [character 'a', literal ['b', 'c'], character 'b'],
      part.Every [] Stays := by
  have hmany : (many (character 'é') 1).Every [] Stays :=
    stays_of_parts trivial (by simp [character_stays])
  simp [character_stays, literal_stays, hmany]

theorem choose_shares_beginning_accents :
    ((choose [tuple [many (character 'é') 1, character 'a'],
        tuple [many (character 'é') 1, literal ['b', 'c']],
        tuple [many (character 'é') 1, character 'b']]).parser []
          (.start ['é', 'é', 'b', 'd'])).outcome =
      .matched (.tuple [.list [.char 'é', .char 'é'], .char 'b']) ⟨['é', 'é', 'b', 'd'], 5⟩ ∧
    ∃ failure,
      ((choose [tuple [many (character 'é') 1, character 'a'],
        tuple [many (character 'é') 1, literal ['b', 'c']],
        tuple [many (character 'é') 1, character 'b']]).parser []
          ⟨['é', 'é', 'b', 'd'], 4⟩).outcome = .failed failure ∧
      failure.kind = .composite ∧ failure.cursor = ⟨['é', 'é', 'b', 'd'], 4⟩ := by
  have hmatched : ((tuple [many (character 'é') 1,
      choose [character 'a', literal ['b', 'c'], character 'b']]).parser []
        (.start ['é', 'é', 'b', 'd'])).outcome =
      .matched (.tuple [.list [.char 'é', .char 'é'], .char 'b']) ⟨['é', 'é', 'b', 'd'], 5⟩ := by
    cbv
  have hfailed : ((tuple [many (character 'é') 1,
      choose [character 'a', literal ['b', 'c'], character 'b']]).parser []
        ⟨['é', 'é', 'b', 'd'], 4⟩).outcome =
      .failed (.composite ⟨['é', 'é', 'b', 'd'], 4⟩ (.tooFew 4 1 0)) := by
    cbv
  have hshared := fun cursor => choose_shares_beginning.2 [] [many (character 'é') 1]
    [character 'a', literal ['b', 'c'], character 'b'] cursor beginning_stays
  obtain ⟨hstart, -⟩ := hshared (.start ['é', 'é', 'b', 'd']) (Cursor.onSymbol_start _)
  obtain ⟨hlater, -⟩ := hshared ⟨['é', 'é', 'b', 'd'], 4⟩ ⟨['é', 'é'], ['b', 'd'], rfl, rfl⟩
  obtain ⟨failure, hfailure⟩ := hlater.failed.mpr (.inl ⟨_, hfailed⟩)
  exact ⟨(hstart.matched _ _).mpr hmatched, failure, hfailure,
    hlater.composite failure (.inl hfailure)⟩

-- Alternatives that end alike: the shared end is missed behind the first that matches.
example :
    ((choose [tuple [character 'a', character 'x'],
        tuple [literal ['a', 'b'], character 'x']]).parser [] (.start ['a', 'b', 'x'])).outcome =
      .matched (.tuple [.text ['a', 'b'], .char 'x']) ⟨['a', 'b', 'x'], 3⟩ ∧
    ((tuple [choose [character 'a', literal ['a', 'b']], character 'x']).parser []
        (.start ['a', 'b', 'x'])).outcome =
      .failed (.composite ⟨['a', 'b', 'x'], 0⟩ (.character 'x' (some 'b') 1)) := by
  constructor <;> cbv

end Grammar

end Descent
