import Mathlib
import Descent.Grammar.Leaf
import Descent.Proofs.Grammar.Parts
import Descent.Proofs.Parser.Outcome

/-!
# Where failures are reported

Sequences, choices, repetitions and chains report every failure where they were
entered, whatever their parts do. All other grammars pass failures on, or fail
themselves at their entry. So a failure of a grammar comes from one of three
(`run_origin`): from a combinator and is reported at the entry, from a primitive
run at the entry, or from a revision. Runs may be of any depth here, since leaves
and revisions may leave the text, for which alone a grammar's parser is deep enough.
-/

namespace Descent

-- ---------------------------------------------------------------------------
-- Combinators
-- ---------------------------------------------------------------------------

namespace Parser

/-- Every failure is a composite one, reported where the parser was entered. -/
def AnchorsFailures (parser : Parser α) : Prop :=
  ∀ ⦃cursor failure⦄, (parser cursor).outcome = .failed failure →
    failure.cursor = cursor ∧ failure.kind = .composite

theorem sequence_anchorsFailures (parsers : List (Parser α)) :
    (sequence parsers).AnchorsFailures := by
  intro cursor failure h
  obtain ⟨cause, -, rfl⟩ := sequence_failed.mp h
  exact ⟨rfl, rfl⟩

theorem between_anchorsFailures (opening : Parser α) (closing : Parser β) (inner : Parser γ) :
    (opening.between closing inner).AnchorsFailures := by
  intro cursor failure h
  obtain ⟨cause, -, rfl⟩ := between_failed.mp h
  exact ⟨rfl, rfl⟩

theorem choose_anchorsFailures (alternatives : List (Parser α)) :
    (choose alternatives).AnchorsFailures := by
  intro cursor failure h
  obtain ⟨-, rfl⟩ := choose_failed.mp h
  exact ⟨rfl, rfl⟩

theorem many_anchorsFailures (limit least : Nat) (body : Parser α) :
    (many limit least body).AnchorsFailures := by
  intro cursor failure h
  obtain ⟨values, rest, -, -, rfl⟩ := many_failed.mp h
  exact ⟨rfl, rfl⟩

theorem interpose_anchorsFailures (limit : Nat) (item separator : Parser α) :
    (interpose limit item separator).AnchorsFailures := by
  intro cursor failure h
  obtain ⟨-, rfl⟩ := interpose_failed.mp h
  exact ⟨rfl, rfl⟩

theorem chainl_anchorsFailures (limit : Nat) (operand : Parser α)
    (operator : Parser (α → α → α)) : (chainl limit operand operator).AnchorsFailures := by
  intro cursor failure h
  obtain ⟨-, rfl⟩ := chainl_failed.mp h
  exact ⟨rfl, rfl⟩

end Parser

-- ---------------------------------------------------------------------------
-- Grammars
-- ---------------------------------------------------------------------------

namespace Grammar

def Primitive : Grammar → Prop
  | .character _ | .literal _ | .pattern _ | .leaf _ => True
  | _ => False

/-- What makes a grammar fail that is entered at a cursor. -/
inductive Origin (rules : Rules) (grammar : Grammar) (cursor : Cursor) (failure : Failure) : Prop
  | combinator : failure.cursor = cursor → failure.kind = .composite →
      Origin rules grammar cursor failure
  | primitive : Within rules grammar part → part.Primitive →
      (∀ depth, (run rules (depth + 1) part cursor).outcome = .failed failure) →
      Origin rules grammar cursor failure
  | revision : Within rules grammar (.mapState body revision) →
      revision cursor value rest = .error failure → Origin rules grammar cursor failure

variable {rules : Rules} {limit : Nat} {part : Grammar → Parser Value} {grammar : Grammar}
  {cursor : Cursor} {failure : Failure}

theorem Origin.of_call {inner : Grammar} (h : Origin rules inner cursor failure)
    (hinner : inner ∈ grammar.calls rules) : Origin rules grammar cursor failure := by
  cases h with
  | combinator hcursor hkind => exact .combinator hcursor hkind
  | primitive hwithin hprimitive hfailed => exact .primitive (hwithin.head hinner) hprimitive hfailed
  | revision hwithin hrevision => exact .revision (hwithin.head hinner) hrevision

theorem Origin.of_anchored {parser : Parser α} (h : parser.AnchorsFailures)
    (hfailed : (parser cursor).outcome = .failed failure) : Origin rules grammar cursor failure :=
  .combinator (h hfailed).1 (h hfailed).2

theorem Primitive.run_eq (h : grammar.Primitive) (depth : Nat) :
    run rules (depth + 1) grammar = assemble rules limit part grammar := by
  rw [run_succ]
  cases grammar with
  | character expected => rfl
  | literal expected => rfl
  | pattern searched => rfl
  | leaf function => rfl
  | _ => exact h.elim

theorem Primitive.origin (h : grammar.Primitive)
    (hfailed : (assemble rules limit part grammar cursor).outcome = .failed failure) :
    Origin rules grammar cursor failure :=
  .primitive .refl h fun depth => by rwa [h.run_eq depth]

theorem assemble_origin
    (hparts : ∀ inner ∈ grammar.calls rules, ∀ {cursor failure},
      (part inner cursor).outcome = .failed failure → Origin rules inner cursor failure)
    (hfailed : (assemble rules limit part grammar cursor).outcome = .failed failure) :
    Origin rules grammar cursor failure := by
  cases grammar with
  | character expected => exact Primitive.origin trivial hfailed
  | literal expected => exact Primitive.origin trivial hfailed
  | pattern searched => exact Primitive.origin trivial hfailed
  | leaf function => exact Primitive.origin trivial hfailed
  | tuple parts =>
    exact .of_anchored (Parser.sequence_anchorsFailures _) (Parser.map_failed.mp hfailed)
  | list parts =>
    exact .of_anchored (Parser.sequence_anchorsFailures _) (Parser.map_failed.mp hfailed)
  | choose alternatives => exact .of_anchored (Parser.choose_anchorsFailures _) hfailed
  | optional body => exact absurd (Parser.map_failed.mp hfailed) Parser.optional_not_failed
  | many body least =>
    exact .of_anchored (Parser.many_anchorsFailures limit least _) (Parser.map_failed.mp hfailed)
  | interpose item separator =>
    exact .of_anchored (Parser.interpose_anchorsFailures limit _ _) (Parser.map_failed.mp hfailed)
  | between opening closing inner =>
    exact .of_anchored (Parser.between_anchorsFailures _ _ _) hfailed
  | chainl operand operator fold =>
    exact .of_anchored (Parser.chainl_anchorsFailures limit _ _) hfailed
  | map body mapping =>
    have hbody := hparts body List.mem_cons_self (Parser.map_failed.mp hfailed)
    exact hbody.of_call List.mem_cons_self
  | mapState body revision =>
    obtain hbody | ⟨value, rest, -, hrevision⟩ := Parser.mapState_failed.mp hfailed
    · exact (hparts body List.mem_cons_self hbody).of_call List.mem_cons_self
    · exact .revision .refl hrevision
  | filter body test message =>
    obtain hbody | ⟨-, rfl⟩ := Parser.filter_failed.mp hfailed
    · exact (hparts body List.mem_cons_self hbody).of_call List.mem_cons_self
    · exact .combinator rfl rfl
  | indexed body =>
    have hbody := Parser.indexed_failed.mp (Parser.map_failed.mp hfailed)
    exact (hparts body List.mem_cons_self hbody).of_call List.mem_cons_self
  | rule name =>
    cases hbody : rules.lookup name with
    | none => simp [assemble, hbody] at hfailed
    | some body =>
      simp only [assemble, hbody] at hfailed
      have hcall : body ∈ (Grammar.rule name).calls rules := by simp [hbody]
      exact (hparts body hcall hfailed).of_call hcall

theorem run_origin (hfailed : (run rules depth grammar cursor).outcome = .failed failure) :
    Origin rules grammar cursor failure := by
  induction depth generalizing grammar cursor failure with
  | zero => simp [run] at hfailed
  | succ depth ih =>
    rw [run_succ] at hfailed
    exact assemble_origin (fun _ _ _ _ => ih) hfailed

/-- The functions of a grammar fail only at the cursor that they were entered with. -/
def FailsAtEntry : Grammar → Prop
  | .leaf function => ∀ cursor failure, function cursor = .error failure → failure.cursor = cursor
  | .mapState _ revision => ∀ entry value rest failure,
      revision entry value rest = .error failure → failure.cursor = entry
  | _ => True

/-- The grammar may go elsewhere, or fail, behind a match. -/
def Revises : Grammar → Prop
  | .mapState _ _ => True
  | _ => False

theorem leaf_failed {function : Leaf} :
    (function.parser cursor).outcome = .failed failure ↔ function cursor = .error failure := by
  simp only [Leaf.parser, Parser.here_bind]
  cases function cursor <;> simp [Parser.bind_outcome]

theorem Primitive.cursor_eq (h : grammar.Primitive) (hentry : grammar.FailsAtEntry)
    (hfailed : (run rules (depth + 1) grammar cursor).outcome = .failed failure) :
    failure.cursor = cursor := by
  rw [run_succ] at hfailed
  cases grammar with
  | character expected =>
    obtain ⟨-, rfl⟩ := Parser.character_failed.mp (Parser.map_failed.mp hfailed)
    rfl
  | literal expected =>
    obtain ⟨-, rfl⟩ := Parser.literal_failed.mp (Parser.map_failed.mp hfailed)
    rfl
  | pattern searched =>
    obtain ⟨-, rfl⟩ := Parser.pattern_failed.mp (Parser.map_failed.mp hfailed)
    rfl
  | leaf function => exact hentry _ _ (leaf_failed.mp hfailed)
  | _ => exact h.elim

/-- Failures are reported at the entry: by combinators, whatever their parts are; by grammars, if
their own functions do so. A mismatch, without revisions, is that of a primitive at the entry. The
functions may go wherever they like, and all runs that fail are meant, however deep. -/
theorem failures_anchored :
    ((∀ {α : Type} (parsers : List (Parser α)), (Parser.sequence parsers).AnchorsFailures) ∧
      (∀ {α β γ : Type} (opening : Parser α) (closing : Parser β) (inner : Parser γ),
        (opening.between closing inner).AnchorsFailures) ∧
      (∀ {α : Type} (alternatives : List (Parser α)),
        (Parser.choose alternatives).AnchorsFailures) ∧
      (∀ {α : Type} (limit least : Nat) (body : Parser α),
        (Parser.many limit least body).AnchorsFailures) ∧
      (∀ {α : Type} (limit : Nat) (item separator : Parser α),
        (Parser.interpose limit item separator).AnchorsFailures) ∧
      ∀ {α : Type} (limit : Nat) (operand : Parser α) (operator : Parser (α → α → α)),
        (Parser.chainl limit operand operator).AnchorsFailures) ∧
    ∀ (rules : Rules) (depth : Nat) (grammar : Grammar) (cursor : Cursor) (failure : Failure),
      grammar.Every rules FailsAtEntry →
      (run rules depth grammar cursor).outcome = .failed failure →
      failure.cursor = cursor ∧
        (grammar.Every rules (¬Revises ·) → failure.kind = .mismatch →
          ∃ part, Within rules grammar part ∧ part.Primitive ∧
            ∀ depth, (run rules (depth + 1) part cursor).outcome = .failed failure) := by
  refine ⟨⟨Parser.sequence_anchorsFailures, Parser.between_anchorsFailures,
    Parser.choose_anchorsFailures, Parser.many_anchorsFailures, Parser.interpose_anchorsFailures,
    Parser.chainl_anchorsFailures⟩, fun rules depth grammar cursor failure hentry hfailed => ?_⟩
  cases run_origin hfailed with
  | combinator hcursor hkind =>
    -- combinators report composite failures only
    exact ⟨hcursor, fun _ hmismatch => by simp [hkind] at hmismatch⟩
  | primitive hwithin hprimitive hpart =>
    exact ⟨hprimitive.cursor_eq (hentry _ hwithin) (hpart 0),
      fun _ _ => ⟨_, hwithin, hprimitive, hpart⟩⟩
  | revision hwithin hrevision =>
    exact ⟨hentry _ hwithin _ _ _ _ hrevision, fun hrevises => absurd trivial (hrevises _ hwithin)⟩

theorem any_failsAtEntry : (Grammar.leaf Leaf.any).FailsAtEntry := by
  intro cursor failure h
  simp only [Leaf.any] at h
  split at h
  · cases h
  · cases h
    rfl

theorem failures_anchored_indexed :
    (run [] 2 (.indexed (.leaf Leaf.any)) (.start [])).outcome =
        .failed (.new (.start []) (.said "unexpected end of input".toList)) ∧
      ∃ part, Within [] (.indexed (.leaf Leaf.any)) part ∧ part.Primitive ∧
        ∀ depth, (run [] (depth + 1) part (.start [])).outcome =
          .failed (.new (.start []) (.said "unexpected end of input".toList)) := by
  have hwithin : ∀ part, Within [] (.indexed (.leaf Leaf.any)) part →
      part = .indexed (.leaf Leaf.any) ∨ part = .leaf Leaf.any := by
    intro part hpart
    simpa [allNodes, nodes_eq, parts] using hpart.mem_allNodes
  have hentry : (Grammar.indexed (.leaf Leaf.any)).Every [] FailsAtEntry := by
    intro part hpart
    obtain rfl | rfl := hwithin part hpart
    · trivial
    · exact any_failsAtEntry
  have hrevises : (Grammar.indexed (.leaf Leaf.any)).Every [] (¬Revises ·) := by
    intro part hpart
    obtain rfl | rfl := hwithin part hpart <;> exact id
  have hfailed : (run [] 2 (.indexed (.leaf Leaf.any)) (.start [])).outcome =
      .failed (.new (.start []) (.said "unexpected end of input".toList)) := by cbv
  exact ⟨hfailed, (failures_anchored.2 [] 2 _ _ _ hentry hfailed).2 hrevises rfl⟩

end Grammar

end Descent
