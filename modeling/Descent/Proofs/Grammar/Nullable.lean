import Descent.Proofs.Cursor
import Descent.Proofs.Grammar.Parts
import Descent.Proofs.Parser.Outcome

/-!
# Grammars that may read nothing

`Nullable` is the least predicate that holds of every grammar that may match
and read nothing, and `run_moves` says so: a match stands at or behind its
entry, and strictly behind it if the grammar is not nullable.

That needs the functions of the grammar to see values only.
-/

namespace Descent

/-- A match stands at its entry, which only a nullable parser allows, or behind it. -/
def Parser.Moves (nullable : Prop) (parser : Parser α) : Prop :=
  ∀ ⦃cursor value rest⦄, cursor.OnSymbol → (parser cursor).outcome = .matched value rest →
    ∃ text, cursor.Reads text rest ∧ (text = [] → nullable)

namespace Parser.Moves

variable {α β γ : Type} {nullable nullable' nullable'' : Prop} {parser item : Parser α}
  {link : Parser β}

theorem imp (h : parser.Moves nullable) (himp : nullable → nullable') : parser.Moves nullable' := by
  intro cursor value rest hon hmatched
  obtain ⟨text, hreads, hnullable⟩ := h hon hmatched
  exact ⟨text, hreads, himp ∘ hnullable⟩

theorem map {f : α → β} (h : parser.Moves nullable) : (f <$> parser).Moves nullable := by
  intro cursor value rest hon hmatched
  obtain ⟨_, hinner, -⟩ := map_matched.mp hmatched
  exact h hon hinner

theorem threads {nullable : γ → Prop} {part : γ → Parser α} {parts : List γ}
    (hparts : ∀ inner ∈ parts, (part inner).Moves (nullable inner)) (hon : cursor.OnSymbol)
    (h : Threads (parts.map part) cursor values rest) :
    ∃ text, cursor.Reads text rest ∧ (text = [] → ∀ inner ∈ parts, nullable inner) := by
  induction parts generalizing cursor values with
  | nil =>
    cases h
    exact ⟨[], .rfl, by simp⟩
  | cons inner parts ih =>
    obtain ⟨hfirst, hlater⟩ := List.forall_mem_cons.mp hparts
    cases h with
    | cons hmatched hthreads =>
      obtain ⟨text, hreads, hnullable⟩ := hfirst hon hmatched
      obtain ⟨text', hreads', hnullable'⟩ := ih hlater (hreads.onSymbol hon) hthreads
      refine ⟨text ++ text', hreads.trans hreads', fun hnil => ?_⟩
      obtain ⟨hnil, hnil'⟩ := List.append_eq_nil_iff.mp hnil
      exact List.forall_mem_cons.mpr ⟨hnullable hnil, hnullable' hnil'⟩

theorem sequence {nullable : γ → Prop} {part : γ → Parser α} {parts : List γ}
    (hparts : ∀ inner ∈ parts, (part inner).Moves (nullable inner)) :
    (sequence (parts.map part)).Moves (∀ inner ∈ parts, nullable inner) :=
  fun _ _ _ hon hmatched => threads hparts hon (sequence_matched.mp hmatched)

theorem between {opening : Parser α} {closing : Parser β} {inner : Parser γ}
    (hopening : opening.Moves nullable) (hinner : inner.Moves nullable')
    (hclosing : closing.Moves nullable'') :
    (opening.between closing inner).Moves (nullable ∧ nullable' ∧ nullable'') := by
  intro cursor value rest hon hmatched
  obtain ⟨first, opened, last, closed, h, h', h''⟩ := between_matched.mp hmatched
  obtain ⟨text, hreads, hnullable⟩ := hopening hon h
  have hread := hreads.onSymbol hon
  obtain ⟨text', hreads', hnullable'⟩ := hinner hread h'
  obtain ⟨text'', hreads'', hnullable''⟩ := hclosing (hreads'.onSymbol hread) h''
  refine ⟨text ++ (text' ++ text''), hreads.trans (hreads'.trans hreads''), fun hnil => ?_⟩
  obtain ⟨hnil, hnil'⟩ := List.append_eq_nil_iff.mp hnil
  obtain ⟨hnil', hnil''⟩ := List.append_eq_nil_iff.mp hnil'
  exact ⟨hnullable hnil, hnullable' hnil', hnullable'' hnil''⟩

theorem choose {parsers : List (Parser α)} (h : ∀ parser ∈ parsers, parser.Moves nullable) :
    (choose parsers).Moves nullable := by
  intro cursor value rest hon hmatched
  obtain ⟨before, parser, after, rfl, -, hparser⟩ := choose_matched.mp hmatched
  exact h parser (by simp) hon hparser

theorem optional (h : parser.Moves nullable) : parser.optional.Moves True := by
  intro cursor found rest hon hmatched
  cases found with
  | none =>
    obtain ⟨-, rfl⟩ := optional_none.mp hmatched
    exact ⟨[], .rfl, fun _ => trivial⟩
  | some value =>
    obtain ⟨text, hreads, -⟩ := h hon (optional_some.mp hmatched)
    exact ⟨text, hreads, fun _ => trivial⟩

theorem star (h : parser.Moves nullable) (hon : cursor.OnSymbol)
    (hmatched : (star limit parser cursor).outcome = .matched values rest) :
    ∃ text, cursor.Reads text rest ∧ (text = [] → values = [] ∨ nullable) := by
  induction limit generalizing cursor values with
  | zero => simp [Parser.star] at hmatched
  | succ limit ih =>
    obtain ⟨-, rfl, rfl⟩ | ⟨first, middle, later, hfirst, hlater, rfl⟩ :=
      star_succ_matched.mp hmatched
    · exact ⟨[], .rfl, fun _ => .inl rfl⟩
    · -- the first round alone decides, whatever later ones read
      obtain ⟨text, hreads, hnullable⟩ := h hon hfirst
      obtain ⟨text', hreads', -⟩ := ih (hreads.onSymbol hon) hlater
      refine ⟨text ++ text', hreads.trans hreads', fun hnil => .inr ?_⟩
      exact hnullable (List.append_eq_nil_iff.mp hnil).1

theorem many (h : parser.Moves nullable) (limit least : Nat) :
    (many limit least parser).Moves (least = 0 ∨ nullable) := by
  intro cursor values rest hon hmatched
  obtain ⟨hstar, hleast⟩ := many_matched.mp hmatched
  obtain ⟨text, hreads, hnullable⟩ := h.star hon hstar
  refine ⟨text, hreads, fun hnil => (hnullable hnil).imp_left ?_⟩
  rintro rfl
  exact Nat.le_zero.mp hleast

theorem linked {dangling : Nat → Event} (hlink : link.Moves nullable)
    (hitem : item.Moves nullable') :
    (linked dangling link item).Moves (nullable ∧ nullable') := by
  intro cursor pair rest hon hmatched
  obtain ⟨middle, h, h'⟩ := linked_matched.mp hmatched
  obtain ⟨text, hreads, hnullable⟩ := hlink hon h
  obtain ⟨text', hreads', hnullable'⟩ := hitem (hreads.onSymbol hon) h'
  refine ⟨text ++ text', hreads.trans hreads', fun hnil => ?_⟩
  obtain ⟨hnil, hnil'⟩ := List.append_eq_nil_iff.mp hnil
  exact ⟨hnullable hnil, hnullable' hnil'⟩

theorem chain {reason : Nat → Reason} {dangling : Nat → Event} (hitem : item.Moves nullable)
    (hlink : link.Moves nullable') :
    (chain limit reason dangling item link).Moves nullable := by
  intro cursor chained rest hon hmatched
  obtain ⟨middle, hfirst, hstar⟩ := chain_matched.mp hmatched
  obtain ⟨text, hreads, hnullable⟩ := hitem hon hfirst
  obtain ⟨text', hreads', -⟩ := (linked hlink hitem).star (hreads.onSymbol hon) hstar
  refine ⟨text ++ text', hreads.trans hreads', fun hnil => ?_⟩
  exact hnullable (List.append_eq_nil_iff.mp hnil).1

theorem interpose {item separator : Parser α} (hitem : item.Moves nullable)
    (hseparator : separator.Moves nullable') (limit : Nat) :
    (interpose limit item separator).Moves nullable := by
  intro cursor values rest hon hmatched
  obtain ⟨first, pairs, hchain, -⟩ := interpose_matched.mp hmatched
  exact chain hitem hseparator hon hchain

theorem chainl {operand : Parser α} {operator : Parser (α → α → α)}
    (hoperand : operand.Moves nullable) (hoperator : operator.Moves nullable') (limit : Nat) :
    (chainl limit operand operator).Moves nullable := by
  intro cursor value rest hon hmatched
  obtain ⟨first, pairs, hchain, -⟩ := chainl_matched.mp hmatched
  exact chain hoperand hoperator hon hchain

theorem filter (h : parser.Moves nullable) (test : α → Bool) (message : Text) :
    (parser.filter test message).Moves nullable :=
  fun _ _ _ hon hmatched => h hon (filter_matched.mp hmatched).1

theorem indexed (h : parser.Moves nullable) : parser.indexed.Moves nullable :=
  fun _ _ _ hon hmatched => h hon (indexed_matched.mp hmatched).1

-- ---------------------------------------------------------------------------
-- Primitives
-- ---------------------------------------------------------------------------

theorem character (expected : Char) : (character expected).Moves False := by
  intro cursor value rest hon hmatched
  obtain ⟨hcurrent, -, rfl⟩ := character_matched.mp hmatched
  refine ⟨_, Cursor.reads_advance hon 1, ?_⟩
  obtain ⟨after, hafter⟩ := Cursor.remainder_eq_cons hcurrent
  simp [hafter]

theorem literal (expected : Text) : (literal expected).Moves (expected = []) := by
  intro cursor value rest hon hmatched
  obtain ⟨⟨after, hafter⟩, -, rfl⟩ := literal_matched.mp hmatched
  exact ⟨_, Cursor.reads_skipBytes hon hafter.symm, id⟩

end Parser.Moves

namespace Grammar

inductive Nullable (rules : Rules) : Grammar → Prop
  | literal : Nullable rules (.literal [])
  /-- There is a text on which the pattern has an empty match. -/
  | pattern : searched.matchStart? text = some (found, length) → text.take length = [] →
      Nullable rules (.pattern searched)
  | tuple : (∀ part ∈ all, Nullable rules part) → Nullable rules (.tuple all)
  | list : (∀ part ∈ all, Nullable rules part) → Nullable rules (.list all)
  | choose : alternative ∈ alternatives → Nullable rules alternative →
      Nullable rules (.choose alternatives)
  | optional : Nullable rules (.optional body)
  | many_zero : Nullable rules (.many body 0)
  | many : Nullable rules body → Nullable rules (.many body least)
  | interpose : Nullable rules item → Nullable rules (.interpose item separator)
  | between {inner : Grammar} : Nullable rules opening → Nullable rules inner →
      Nullable rules closing →
      Nullable rules (.between opening closing inner)
  | chainl : Nullable rules operand → Nullable rules (.chainl operand operator fold)
  | map : Nullable rules body → Nullable rules (.map body mapping)
  | filter : Nullable rules body → Nullable rules (.filter body test message)
  | indexed : Nullable rules body → Nullable rules (.indexed body)
  | rule : rules.lookup name = some body → Nullable rules body → Nullable rules (.rule name)

variable {rules : Rules} {limit : Nat} {part : Grammar → Parser Value} {grammar : Grammar}

theorem assemble_moves (hplain : grammar.Plain)
    (hparts : ∀ inner ∈ grammar.calls rules, (part inner).Moves (Nullable rules inner)) :
    (assemble rules limit part grammar).Moves (Nullable rules grammar) := by
  cases grammar with
  | character expected => exact (Parser.Moves.character expected).map.imp False.elim
  | literal expected =>
    refine (Parser.Moves.literal expected).map.imp ?_
    rintro rfl
    exact .literal
  | pattern searched =>
    intro cursor value rest hon hmatched
    obtain ⟨_, hinner, rfl⟩ := Parser.map_matched.mp hmatched
    obtain ⟨length, hmatch, rfl⟩ := Parser.pattern_matched.mp hinner
    exact ⟨_, Cursor.reads_advance hon length, .pattern hmatch⟩
  | leaf function => exact hplain.elim
  | tuple parts => exact (Parser.Moves.sequence hparts).map.imp .tuple
  | list parts => exact (Parser.Moves.sequence hparts).map.imp .list
  | choose alternatives =>
    refine Parser.Moves.choose fun parser hmem => ?_
    obtain ⟨alternative, halternative, rfl⟩ := List.mem_map.mp hmem
    exact (hparts alternative halternative).imp (.choose halternative)
  | optional body => exact (hparts body (by simp)).optional.map.imp fun _ => .optional
  | many body least =>
    refine ((hparts body (by simp)).many limit least).map.imp ?_
    rintro (rfl | hbody)
    · exact .many_zero
    · exact .many hbody
  | interpose item separator =>
    exact ((hparts item (by simp)).interpose (hparts separator (by simp)) limit).map.imp .interpose
  | between opening closing inner =>
    refine ((hparts opening (by simp)).between (hparts inner (by simp))
      (hparts closing (by simp))).imp ?_
    rintro ⟨hopening, hinner, hclosing⟩
    exact .between hopening hinner hclosing
  | chainl operand operator fold =>
    exact ((hparts operand (by simp)).chainl (hparts operator (by simp)).map limit).imp .chainl
  | map body mapping => exact (hparts body (by simp)).map.imp .map
  | mapState body revision => exact hplain.elim
  | filter body test message => exact ((hparts body (by simp)).filter test message).imp .filter
  | indexed body => exact (hparts body (by simp)).indexed.map.imp .indexed
  | rule name =>
    cases hbody : rules.lookup name with
    | none =>
      intro cursor value rest _ hmatched
      simp [assemble, hbody] at hmatched
    | some body =>
      have hmoves := hparts body (by simp [hbody])
      simp only [assemble, hbody]
      exact hmoves.imp (.rule hbody)

theorem run_moves (hplain : grammar.Every rules Plain) (depth : Nat) :
    Parser.Moves (Nullable rules grammar) (run rules depth grammar) := by
  induction depth generalizing grammar with
  | zero =>
    intro cursor value rest _ hmatched
    simp [run] at hmatched
  | succ depth ih =>
    rw [run_succ]
    exact assemble_moves hplain.self fun inner hinner => ih (hplain.call hinner)

theorem parser_moves (hplain : grammar.Every rules Plain) :
    (grammar.parser rules).Moves (Nullable rules grammar) :=
  fun _ _ _ hon hmatched => run_moves hplain _ hon hmatched

end Grammar

end Descent
