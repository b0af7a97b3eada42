import Mathlib
import Descent.Proofs.Grammar.Parts
import Descent.Proofs.Parser.Outcome

/-!
# A chain folds what an interposed list holds

`chainl` and `interpose` are told apart by what they do with the pairs of a link
and an item behind the first item, not by which pairs they find: a chain whose
links are mapped goes along with the chain whose links are not, round by round
(`star_map`). So `chainl` fails, matches and stops as `interpose` does, and
yields the left fold of the list (`chainl_folds_interpose`).
-/

namespace Descent

namespace Parser

variable {α β γ : Type} {cursor : Cursor}

/-- A repetition asks its body only whether it matches, so parsers may also differ in how they fail. -/
theorem star_map_optional {parser : Parser α} {parser' : Parser β} {f : α → β}
    (h : ∀ cursor, (parser'.optional cursor).outcome =
      (parser.optional cursor).outcome.map (Option.map f)) (limit : Nat) (cursor : Cursor) :
    (star limit parser' cursor).outcome = (star limit parser cursor).outcome.map (List.map f) := by
  induction limit generalizing cursor with
  | zero => rfl
  | succ limit ih =>
    simp only [star, bind_outcome, h]
    cases (parser.optional cursor).outcome with
    | matched found middle =>
      cases found with
      | none => rfl
      | some value =>
        simp only [Outcome.map, Option.map, bind_outcome, ih]
        cases (star limit parser middle).outcome <;> rfl
    | failed failure => rfl
    | unfinished => rfl

theorem star_map {parser : Parser α} {parser' : Parser β} {f : α → β}
    (h : ∀ cursor, (parser' cursor).outcome = (parser cursor).outcome.map f) (limit : Nat)
    (cursor : Cursor) :
    (star limit parser' cursor).outcome = (star limit parser cursor).outcome.map (List.map f) := by
  refine star_map_optional (fun cursor => ?_) limit cursor
  rw [optional_outcome, optional_outcome, h]
  cases (parser cursor).outcome <;> rfl

theorem linked_map (dangling dangling' : Nat → Event) (link : Parser β) (item : Parser α)
    (f : β → γ) (cursor : Cursor) :
    (linked dangling' (f <$> link) item cursor).outcome =
      (linked dangling link item cursor).outcome.map (Prod.map f id) := by
  simp only [linked, here_bind, bind_outcome, map_outcome]
  cases (link cursor).outcome with
  | matched connection middle =>
    simp only [Outcome.map, bind_outcome, onFailure_outcome]
    cases (item middle).outcome <;> rfl
  | failed failure => rfl
  | unfinished => rfl

/-- What a chain comes to, by the fold, where the interposed list of the same parts comes to the
first of the two outcomes. -/
inductive Folded (fold : α → α → α → α) (cursor : Cursor) : Outcome (List α) → Outcome α → Prop
  | failed : Folded fold cursor (.failed (.composite cursor (.noItem cursor.index)))
      (.failed (.composite cursor (.noOperand cursor.index)))
  | matched (first : α) (pairs : List (α × α)) (rest : Cursor) :
      Folded fold cursor (.matched (first :: pairs.flatMap fun (link, item) => [link, item]) rest)
        (.matched (pairs.foldl (fun joined (link, item) => fold link joined item) first) rest)

theorem folded_or_unfinished (limit : Nat) (operand separator : Parser α) (fold : α → α → α → α)
    (cursor : Cursor) :
    Folded fold cursor (operand.interpose limit separator cursor).outcome
        (operand.chainl limit (fold <$> separator) cursor).outcome ∨
      (operand.interpose limit separator cursor).outcome = .unfinished ∧
        (operand.chainl limit (fold <$> separator) cursor).outcome = .unfinished := by
  rw [interpose_outcome, chainl_outcome, chain_outcome, chain_outcome]
  cases (operand cursor).outcome with
  | failed failure => exact .inl .failed
  | unfinished => exact .inr ⟨rfl, rfl⟩
  | matched first middle =>
    -- only the value of the operator and the report of a dangling one are different
    simp only [star_map (linked_map .danglingSeparator .danglingOperator separator operand fold)]
    cases hstar : (star limit (linked .danglingSeparator separator operand) middle).outcome with
    | failed failure => exact absurd hstar star_not_failed
    | unfinished => exact .inr ⟨rfl, rfl⟩
    | matched pairs rest =>
      refine .inl ?_
      simp only [Outcome.map, List.foldl_map]
      exact .matched first pairs rest

end Parser

namespace Grammar

/-- Wherever an interposed list or the chain of the same parts ends, both do: they fail at the
entry, or match the same items and links, and the chain yields their left fold. Of grammars this
holds for runs of any depth. -/
theorem chainl_folds_interpose :
    (∀ {α : Type} (limit : Nat) (operand separator : Parser α) (fold : α → α → α → α)
      (cursor : Cursor),
      (operand.interpose limit separator cursor).outcome ≠ .unfinished ∨
        (operand.chainl limit (fold <$> separator) cursor).outcome ≠ .unfinished →
      Parser.Folded fold cursor (operand.interpose limit separator cursor).outcome
        (operand.chainl limit (fold <$> separator) cursor).outcome) ∧
    ∀ (rules : Rules) (depth : Nat) (operand separator : Grammar) (fold : Value.Fold)
      (cursor : Cursor),
      ((interpose operand separator).run rules depth cursor).outcome ≠ .unfinished ∨
        ((chainl operand separator fold).run rules depth cursor).outcome ≠ .unfinished →
      ∃ interposed,
        ((interpose operand separator).run rules depth cursor).outcome = interposed.map .list ∧
        Parser.Folded fold cursor interposed
          ((chainl operand separator fold).run rules depth cursor).outcome := by
  constructor
  · intro α limit operand separator fold cursor hends
    obtain hfolded | ⟨hinterpose, hchainl⟩ :=
      Parser.folded_or_unfinished limit operand separator fold cursor
    · exact hfolded
    · exact absurd hends (by simp [hinterpose, hchainl])
  · intro rules depth operand separator fold cursor hends
    cases depth with
    | zero => simp [run] at hends
    | succ depth =>
      simp only [run_succ, assemble, Parser.map_outcome] at hends ⊢
      refine ⟨_, rfl, ?_⟩
      obtain hfolded | ⟨hunfinished, hunfinished'⟩ :=
        Parser.folded_or_unfinished depth (run rules depth operand) (run rules depth separator) fold
          cursor
      · exact hfolded
      · exact absurd hends (by simp [hunfinished, hunfinished', Outcome.map])

theorem chainl_folds_interpose_dangling :
    ((chainl (.character 'a') (.character '→') Value.Fold.flip).parser []
        (.start ['a', '→', 'a', '→', 'a', '→'])).outcome ≠ .unfinished ∧
      ∃ interposed,
        ((interpose (.character 'a') (.character '→')).parser []
          (.start ['a', '→', 'a', '→', 'a', '→'])).outcome = interposed.map .list ∧
        Parser.Folded Value.Fold.flip (.start ['a', '→', 'a', '→', 'a', '→']) interposed
          (.matched (.node ['→'] (.char 'a') (.node ['→'] (.char 'a') (.char 'a')))
            ⟨['a', '→', 'a', '→', 'a', '→'], 9⟩) := by
  have hchainl : ((chainl (.character 'a') (.character '→') Value.Fold.flip).parser []
      (.start ['a', '→', 'a', '→', 'a', '→'])).outcome =
      .matched (.node ['→'] (.char 'a') (.node ['→'] (.char 'a') (.char 'a')))
        ⟨['a', '→', 'a', '→', 'a', '→'], 9⟩ := by cbv
  have hends : ((chainl (.character 'a') (.character '→') Value.Fold.flip).parser []
      (.start ['a', '→', 'a', '→', 'a', '→'])).outcome ≠ .unfinished := by simp [hchainl]
  rw [← hchainl]
  exact ⟨hends, chainl_folds_interpose.2 _ _ _ _ _ _ (.inr hends)⟩

end Grammar

end Descent
