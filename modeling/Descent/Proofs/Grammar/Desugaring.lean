import Mathlib
import Descent.Proofs.Grammar.Chain
import Descent.Proofs.Grammar.Repetition

/-!
# An interposed list is an item and a repetition of pairs

`interpose` reads what the sequence of an item and a repetition reads whose body
is the sequence of a separator and an item. The two forms fail for reasons of
their own, and so do the bodies of their loops: a pair without an item is a
failure of the item in one and a failure of a sequence in the other. A loop does
not look at that (`star_map_optional`), so both find the same pairs and stop
before the same separator.
-/

namespace Descent

namespace Parser

variable {α β γ : Type} {item separator : Parser α} {cursor rest : Cursor} {limit : Nat}

-- ---------------------------------------------------------------------------
-- Pairs
-- ---------------------------------------------------------------------------

theorem linked_outcome (dangling : Nat → Event) (link : Parser β) (item : Parser α)
    (cursor : Cursor) :
    (linked dangling link item cursor).outcome = (link cursor).outcome.andThen
      fun connection middle => (item middle).outcome.map (connection, ·) := by
  simp only [linked, here_bind, bind_outcome]
  cases (link cursor).outcome with
  | matched connection middle =>
    simp only [Outcome.andThen, bind_outcome, onFailure_outcome]
    cases (item middle).outcome <;> rfl
  | _ => rfl

theorem sequence_pair_outcome (first second : Parser α) (cursor : Cursor) :
    (sequence [first, second] cursor).outcome = ((first cursor).outcome.andThen
      fun value middle => (second middle).outcome.map ([value, ·])).anchored cursor := by
  rw [sequence_outcome, each_cons_outcome]
  simp only [each_singleton, Outcome.map_map]

/-- The sequence fails at its entry and the pair wherever its parts do. -/
theorem sequence_optional (dangling : Nat → Event) (separator item : Parser α) (f : List α → β)
    (cursor : Cursor) :
    ((f <$> sequence [separator, item]).optional cursor).outcome =
      ((linked dangling separator item).optional cursor).outcome.map
        (Option.map fun (link, value) => f [link, value]) := by
  simp only [optional_outcome, map_outcome, sequence_pair_outcome, linked_outcome]
  cases (separator cursor).outcome with
  | matched link middle =>
    simp only [Outcome.andThen]
    cases (item middle).outcome <;> rfl
  | _ => rfl

-- ---------------------------------------------------------------------------
-- The desugared form
-- ---------------------------------------------------------------------------

def itemAndPairs (limit : Nat) (item separator : Parser α) (cursor : Cursor) :
    Outcome (α × List (α × α)) :=
  ((item cursor).outcome.andThen fun first middle =>
    (star limit (linked .danglingSeparator separator item) middle).outcome.map
      (first, ·)).anchored cursor

theorem sequence_item_many (limit : Nat) (item separator : Parser α) (f : α → γ) (g : List β → γ)
    (h : List α → β) (cursor : Cursor) :
    (sequence [f <$> item, g <$> (h <$> sequence [separator, item]).many limit 0] cursor).outcome =
      (itemAndPairs limit item separator cursor).map fun (first, pairs) =>
        [f first, g (pairs.map fun (link, value) => h [link, value])] := by
  rw [sequence_pair_outcome, itemAndPairs, map_outcome]
  cases (item cursor).outcome with
  | matched first middle =>
    simp only [Outcome.andThen, Outcome.map, map_outcome, many_zero_outcome,
      star_map_optional (sequence_optional .danglingSeparator separator item h)]
    cases (star limit (linked .danglingSeparator separator item) middle).outcome <;> rfl
  | _ => rfl

/-- A list that holds an item and then pairs: items at even places and separators at odd ones. -/
structure Interleaved (values : List α) (first : α) (pairs : List (α × α)) : Prop where
  eq : values = first :: pairs.flatMap fun (link, value) => [link, value]
  length : values.length = 2 * pairs.length + 1
  items : ∀ place, values[2 * place]? = (first :: pairs.map Prod.snd)[place]?
  separators : ∀ place, values[2 * place + 1]? = (pairs.map Prod.fst)[place]?

theorem interleaved (first : α) (pairs : List (α × α)) :
    Interleaved (first :: pairs.flatMap fun (link, value) => [link, value]) first pairs := by
  induction pairs generalizing first with
  | nil =>
    refine ⟨rfl, rfl, fun place => ?_, fun place => ?_⟩
    · cases place <;> simp
    · simp
  | cons pair pairs ih =>
    obtain ⟨link, value⟩ := pair
    obtain ⟨-, hlength, hitems, hseparators⟩ := ih value
    -- the list goes on behind the separator with one that holds a pair less
    refine ⟨rfl, ?_, fun place => ?_, fun place => ?_⟩
    · simp only [List.length_cons, List.flatMap_cons, List.cons_append, List.nil_append] at hlength ⊢
      omega
    · cases place with
      | zero => rfl
      | succ place => exact hitems place
    · cases place with
      | zero => rfl
      | succ place => exact hseparators place

/-- What an interposed list and its desugared form come to, one beside the other. -/
inductive Desugars (item separator : Parser α) (cursor : Cursor) :
    Outcome (List α) → Outcome (α × List (α × α)) → Prop
  | failed {cause failure : Failure} : (item cursor).outcome = .failed cause →
      failure.kind = .composite → failure.cursor = cursor →
      failure.message = "interpose failed to parse at ".toList ++ Text.ofNat cursor.index →
      Desugars item separator cursor (.failed failure) (.failed (cause.anchored cursor))
  | matched {first : α} {pairs : List (α × α)} {values : List α} {middle rest : Cursor} :
      (item cursor).outcome = .matched first middle → Interleaved values first pairs →
      ((∃ failure, (separator rest).outcome = .failed failure) ∨
        ∃ link behind failure, (separator rest).outcome = .matched link behind ∧
          (item behind).outcome = .failed failure) →
      Desugars item separator cursor (.matched values rest) (.matched (first, pairs) rest)

theorem Exhausts.linked_stops {dangling : Nat → Event}
    (h : Exhausts (linked dangling separator item) cursor pairs rest) :
    (∃ failure, (separator rest).outcome = .failed failure) ∨
      ∃ link behind failure, (separator rest).outcome = .matched link behind ∧
        (item behind).outcome = .failed failure := by
  obtain ⟨failure, hfailed⟩ := h.failed
  obtain hseparator | ⟨link, behind, hlink, hitem⟩ := linked_failed.mp hfailed
  · exact .inl ⟨failure, hseparator⟩
  · exact .inr ⟨link, behind, failure, hlink, hitem⟩

theorem interpose_desugared
    (hends : (item.interpose limit separator cursor).outcome ≠ .unfinished ∨
      itemAndPairs limit item separator cursor ≠ .unfinished) :
    Desugars item separator cursor (item.interpose limit separator cursor).outcome
      (itemAndPairs limit item separator cursor) := by
  rw [interpose_outcome, chain_outcome, itemAndPairs] at hends ⊢
  cases hitem : (item cursor).outcome with
  | failed cause => exact .failed hitem rfl rfl rfl
  | unfinished => simp [hitem, Outcome.map, Outcome.andThen, Outcome.anchored] at hends
  | matched first middle =>
    simp only [hitem, Outcome.andThen] at hends ⊢
    cases hstar : (star limit (linked .danglingSeparator separator item) middle).outcome with
    | failed failure => exact absurd hstar star_not_failed
    | unfinished => simp [hstar, Outcome.map, Outcome.anchored] at hends
    | matched pairs rest =>
      exact .matched hitem (interleaved first pairs) (star_exhausts.mp hstar).2.linked_stops

end Parser

namespace Grammar

variable {rules : Rules} {source : Text} {item separator : Grammar} {limit : Nat}

theorem interpose_alike (hitem : item.Every rules Stays) (hseparator : separator.Every rules Stays)
    (hlimit : source.length < limit) :
    Parser.Alike source ((interpose item separator).parser rules)
      (Value.list <$> (item.parser rules).interpose limit (separator.parser rules)) :=
  parser_alike (stays_of_parts trivial (by simp [hitem, hseparator])) hlimit

theorem tuple_many_alike (hitem : item.Every rules Stays)
    (hseparator : separator.Every rules Stays) (hlimit : source.length < limit) :
    Parser.Alike source ((tuple [item, many (tuple [separator, item]) 0]).parser rules)
      (Value.tuple <$> Parser.sequence [item.parser rules, Value.list <$>
        (Value.tuple <$> Parser.sequence [separator.parser rules, item.parser rules]).many
          limit 0]) := by
  have hpair : (tuple [separator, item]).Every rules Stays :=
    stays_of_parts trivial (by simp [hitem, hseparator])
  have hpairs := pair_alike hseparator hitem hlimit (parser_alike_self hseparator)
    (parser_alike_self hitem)
  exact pair_alike hitem (many_stays hpair 0) hlimit (parser_alike_self hitem)
    ((many_alike hpair hlimit 0).trans (.map (hpairs.many limit 0) Value.list))

/-- Wherever an interposed list or its desugared form ends, both do: they fail where there is no
item at the entry and match otherwise, and then stop at the same cursor, the interposed list holding
the item and the pairs of the desugared form in their order. -/
theorem interpose_desugars :
    (∀ {α : Type} (limit : Nat) (item separator : Parser α) (cursor : Cursor),
      (item.interpose limit separator cursor).outcome ≠ .unfinished ∨
        (Parser.sequence [Sum.inl <$> item,
          Sum.inr <$> (Parser.sequence [separator, item]).many limit 0] cursor).outcome ≠
            .unfinished →
      ∃ desugared,
        (Parser.sequence [Sum.inl <$> item,
          Sum.inr <$> (Parser.sequence [separator, item]).many limit 0] cursor).outcome =
          desugared.map (fun (first, pairs) =>
            [.inl first, .inr (pairs.map fun (link, value) => [link, value])]) ∧
        Parser.Desugars item separator cursor (item.interpose limit separator cursor).outcome
          desugared) ∧
    ∀ (rules : Rules) (item separator : Grammar) (cursor : Cursor), item.Every rules Stays →
      separator.Every rules Stays → cursor.OnSymbol →
      ((interpose item separator).parser rules cursor).outcome ≠ .unfinished ∨
        ((tuple [item, many (tuple [separator, item]) 0]).parser rules cursor).outcome ≠
          .unfinished →
      ∃ interposed desugared,
        ((interpose item separator).parser rules cursor).outcome = interposed.map .list ∧
        ((tuple [item, many (tuple [separator, item]) 0]).parser rules cursor).outcome =
          desugared.map (fun (first, pairs) =>
            .tuple [first, .list (pairs.map fun (link, value) => .tuple [link, value])]) ∧
        Parser.Desugars (item.parser rules) (separator.parser rules) cursor interposed
          desugared := by
  constructor
  · intro α limit item separator cursor hends
    have hsequence := Parser.sequence_item_many limit item separator
      (Sum.inl : α → α ⊕ List (List α)) Sum.inr id cursor
    rw [Parser.id_map] at hsequence
    rw [hsequence] at hends ⊢
    exact ⟨_, rfl, Parser.interpose_desugared (hends.imp_right (mt (congrArg (Outcome.map _))))⟩
  · intro rules item separator cursor hitem hseparator hcursor hends
    have hlimit := Nat.lt_succ_self cursor.source.length
    have hsequence := Parser.sequence_item_many cursor.source.length.succ (item.parser rules)
      (separator.parser rules) id Value.list Value.tuple cursor
    rw [Parser.id_map] at hsequence
    rw [(interpose_alike hitem hseparator hlimit).outcome_eq (.rfl hcursor),
      (tuple_many_alike hitem hseparator hlimit).outcome_eq (.rfl hcursor), Parser.map_outcome,
      Parser.map_outcome, hsequence, Outcome.map_map] at hends ⊢
    refine ⟨_, _, rfl, rfl, Parser.interpose_desugared ?_⟩
    exact hends.imp (mt (congrArg (Outcome.map _))) (mt (congrArg (Outcome.map _)))

theorem interpose_desugars_dangling :
    ((interpose (.character 'a') (.character '→')).parser []
        (.start ['a', '→', 'a', '→'])).outcome =
      .matched (.list [.char 'a', .char '→', .char 'a']) ⟨['a', '→', 'a', '→'], 5⟩ ∧
    ∃ interposed desugared,
      .matched (.list [.char 'a', .char '→', .char 'a']) ⟨['a', '→', 'a', '→'], 5⟩ =
        interposed.map Value.list ∧
      ((tuple [.character 'a', many (tuple [.character '→', .character 'a']) 0]).parser []
        (.start ['a', '→', 'a', '→'])).outcome = desugared.map (fun (first, pairs) =>
          .tuple [first, .list (pairs.map fun (link, value) => .tuple [link, value])]) ∧
      Parser.Desugars ((character 'a').parser []) ((character '→').parser [])
        (.start ['a', '→', 'a', '→']) interposed desugared := by
  have hinterpose : ((interpose (.character 'a') (.character '→')).parser []
      (.start ['a', '→', 'a', '→'])).outcome =
      .matched (.list [.char 'a', .char '→', .char 'a']) ⟨['a', '→', 'a', '→'], 5⟩ := by cbv
  rw [← hinterpose]
  exact ⟨rfl, interpose_desugars.2 [] _ _ _ (character_stays [] 'a') (character_stays [] '→')
    (Cursor.onSymbol_start _) (.inl (by simp [hinterpose]))⟩

end Grammar

end Descent
