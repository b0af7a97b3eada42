import Mathlib
import Descent.Proofs.Grammar.Desugaring
import Descent.Proofs.Grammar.Nullable
import Descent.Proofs.Grammar.Safety

/-!
# Right recursion reads what a chain reads

The rule "an operand, an operator and the rule again, or an operand" against the
loop of `chainl`. The rule gives a whole level back where the level below it
fails, and that is where the loop breaks: the level below fails just if it has
no operand (`below_failed`), so the rule matches the operand and the pairs behind it
that the loop finds (`rule_matched`), and nests them to the right. Both end, or
neither does, since pairs that read something run out (`exhausts_or_stuck`).
-/

namespace Descent

namespace Parser

inductive Stuck (parser : Parser α) : Cursor → Prop
  | here : (parser cursor).outcome = .unfinished → Stuck parser cursor
  | next : (parser cursor).outcome = .matched value middle → Stuck parser middle →
      Stuck parser cursor

variable {α β γ : Type} {kind : Cursor.Kind} {cursor middle rest : Cursor} {limit : Nat}

theorem Stuck.star_unfinished {parser : Parser α} (h : Stuck parser cursor) (limit : Nat) :
    (star limit parser cursor).outcome = .unfinished := by
  induction h generalizing limit with
  | here hunfinished =>
    cases limit with
    | zero => rfl
    | succ limit => exact star_succ_unfinished.mpr (.inl hunfinished)
  | next hmatched _ ih =>
    cases limit with
    | zero => rfl
    | succ limit => exact star_succ_unfinished.mpr (.inr ⟨_, _, hmatched, ih limit⟩)

theorem exhausts_or_stuck {parser : Parser α}
    (hmoves : ∀ ⦃cursor value rest⦄, kind.holds cursor →
      (parser cursor).outcome = .matched value rest → kind.holds rest ∧
        rest.source.byteSize - rest.index < cursor.source.byteSize - cursor.index)
    (hcursor : kind.holds cursor) :
    (∃ values rest, Exhausts parser cursor values rest) ∨ Stuck parser cursor := by
  induction hleft : cursor.source.byteSize - cursor.index using Nat.strongRecOn
    generalizing cursor with
  | ind left ih =>
    cases hparser : (parser cursor).outcome with
    | failed failure => exact .inl ⟨[], cursor, .done hparser⟩
    | unfinished => exact .inr (.here hparser)
    | matched value middle =>
      obtain ⟨hmiddle, hless⟩ := hmoves hcursor hparser
      obtain ⟨values, rest, h⟩ | h := ih _ (hleft ▸ hless) hmiddle rfl
      · exact .inl ⟨_, _, .next hparser h⟩
      · exact .inr (.next hparser h)

theorem Stuck.linked_part {dangling : Nat → Event} {item : Parser α} {link : Parser β}
    (h : Stuck (linked dangling link item) cursor) :
    ∃ place, (item place).outcome = .unfinished ∨ (link place).outcome = .unfinished := by
  induction h with
  | here hunfinished =>
    obtain hlink | ⟨connection, middle, -, hitem⟩ := linked_unfinished.mp hunfinished
    · exact ⟨_, .inr hlink⟩
    · exact ⟨middle, .inl hitem⟩
  | next _ _ ih => exact ih

/-- A match of the link and of the item behind it stands further on in the same text. -/
def Advances (kind : Cursor.Kind) (link : Parser β) (item : Parser α) : Prop :=
  ∀ ⦃cursor connection middle value rest⦄, kind.holds cursor →
    (link cursor).outcome = .matched connection middle →
    (item middle).outcome = .matched value rest →
      rest.source = cursor.source ∧ cursor.index < rest.index ∧
        rest.index ≤ cursor.source.byteSize

theorem Advances.linked {item : Parser α} {link : Parser β} (h : Advances kind link item)
    (hitem : item.Keeps kind) (hlink : link.Keeps kind) (dangling : Nat → Event) :
    ∀ ⦃cursor pair rest⦄, kind.holds cursor →
      (linked dangling link item cursor).outcome = .matched pair rest → kind.holds rest ∧
        rest.source.byteSize - rest.index < cursor.source.byteSize - cursor.index := by
  intro cursor pair rest hcursor hpair
  obtain ⟨middle, hfirst, hsecond⟩ := linked_matched.mp hpair
  obtain ⟨hsource, hfurther, hbound⟩ := h hcursor hfirst hsecond
  refine ⟨hitem (hlink hcursor hfirst) hsecond, ?_⟩
  rw [hsource]
  omega

-- ---------------------------------------------------------------------------
-- The two forms
-- ---------------------------------------------------------------------------

def nestRight (join : β → α → α → α) : α → List (β × α) → α
  | first, [] => first
  | first, (link, value) :: pairs => join link first (nestRight join value pairs)

def rightRecursive (operand : Parser α) (operator : Parser β) (node : List (α ⊕ β) → α) :
    Nat → Parser α
  | 0 => unfinished
  | limit + 1 => choose [node <$> sequence [Sum.inl <$> operand, Sum.inr <$> operator,
      Sum.inl <$> rightRecursive operand operator node limit], operand]

/-- What a chain and the rule of the same parts come to, one beside the other. -/
inductive Mirrored (operand : Parser α) (operator : Parser β) (fold join : β → α → α → α)
    (cursor : Cursor) : Outcome α → Outcome α → Prop
  | failed {cause : Failure} : (operand cursor).outcome = .failed cause →
      Mirrored operand operator fold join cursor
        (.failed (.composite cursor (.noOperand cursor.index)))
        (.failed (.composite cursor (.noAlternative cursor.index)))
  | matched {first : α} {pairs : List (β × α)} {middle rest : Cursor} :
      (operand cursor).outcome = .matched first middle →
      Exhausts (linked .danglingOperator operator operand) middle pairs rest →
      Mirrored operand operator fold join cursor
        (.matched (pairs.foldl (fun joined (link, value) => fold link joined value) first) rest)
        (.matched (nestRight join first pairs) rest)
  /-- A part that does not end keeps both from ending. -/
  | unfinished :
      (∃ place, (operand place).outcome = .unfinished ∨ (operator place).outcome = .unfinished) →
      Mirrored operand operator fold join cursor .unfinished .unfinished

theorem chainl_fold_outcome (limit : Nat) (operand : Parser α) (operator : Parser β)
    (fold : β → α → α → α) (cursor : Cursor) :
    (chainl limit operand (fold <$> operator) cursor).outcome = match (operand cursor).outcome with
      | .matched first middle =>
        (star limit (linked .danglingOperator operator operand) middle).outcome.map
          (·.foldl (fun joined (link, value) => fold link joined value) first)
      | .failed _ => .failed (.composite cursor (.noOperand cursor.index))
      | .unfinished => .unfinished := by
  rw [chainl_outcome, chain_outcome]
  cases (operand cursor).outcome with
  | matched first middle =>
    simp only [star_map (linked_map .danglingOperator .danglingOperator operator operand fold),
      Outcome.map_map, List.foldl_map]
    rfl
  | _ => rfl

def level (operand : Parser α) (operator : Parser β) (join : β → α → α → α) (inner : Parser α)
    (cursor : Cursor) : Outcome α :=
  match (operand cursor).outcome with
  | .matched first middle =>
    ((linked .danglingOperator operator inner middle).outcome.map
      fun (link, right) => join link first right).orElse (.matched first middle)
  | .failed _ => .failed (.composite cursor (.noAlternative cursor.index))
  | .unfinished => .unfinished

theorem choose_level {operand inner nested : Parser α} {operator : Parser β}
    {join : β → α → α → α} {f : α → γ} {g : β → γ} {node : List γ → α}
    (hnode : ∀ link left right, node [f left, g link, f right] = join link left right)
    (hnested : (nested cursor).outcome =
      (sequence [f <$> operand, g <$> operator, f <$> inner] cursor).outcome.map node) :
    (choose [nested, operand] cursor).outcome = level operand operator join inner cursor := by
  rw [choose, firstOf_cons_outcome, firstOf_cons_outcome, hnested, sequence_outcome,
    each_cons_outcome, map_outcome, level]
  cases (operand cursor).outcome with
  | matched first middle =>
    simp only [Outcome.map, Outcome.andThen, linked_outcome]
    rw [each_cons_outcome, map_outcome]
    cases (operator middle).outcome with
    | matched link behind =>
      simp only [Outcome.map, Outcome.andThen]
      rw [each_singleton, map_outcome]
      cases (inner behind).outcome with
      | matched right rest => simp only [Outcome.map, Outcome.anchored, Outcome.orElse, hnode]
      | _ => rfl
    | _ => rfl
  | _ => rfl

-- ---------------------------------------------------------------------------
-- The rule, level by level
-- ---------------------------------------------------------------------------

section
variable {operand : Parser α} {operator : Parser β} {fold join : β → α → α → α}
  {rule : Nat → Parser α} {first : α} {pairs : List (β × α)}
  (hoperand : operand.Keeps kind) (hoperator : operator.Keeps kind)
  (hrule : ∀ limit cursor, kind.holds cursor →
    (rule (limit + 1) cursor).outcome = level operand operator join (rule limit) cursor)
include hrule

theorem rule_failed (hcursor : kind.holds cursor)
    (hfailed : (operand cursor).outcome = .failed cause) (limit : Nat) :
    (rule (limit + 1) cursor).outcome =
      .failed (.composite cursor (.noAlternative cursor.index)) := by
  rw [hrule limit cursor hcursor, level, hfailed]

theorem rule_unfinished (hcursor : kind.holds cursor)
    (hunfinished : (operand cursor).outcome = .unfinished) (limit : Nat) :
    (rule (limit + 1) cursor).outcome = .unfinished := by
  rw [hrule limit cursor hcursor, level, hunfinished]

theorem rule_behind (hcursor : kind.holds cursor)
    (hfirst : (operand cursor).outcome = .matched first middle) (limit : Nat) :
    (rule (limit + 1) cursor).outcome =
      ((linked .danglingOperator operator (rule limit) middle).outcome.map
        fun (link, right) => join link first right).orElse (.matched first middle) := by
  rw [hrule limit cursor hcursor, level, hfirst]

section
include hoperator

theorem below_failed (hmiddle : kind.holds middle)
    (hfailed : (linked .danglingOperator operator operand middle).outcome = .failed cause)
    (limit : Nat) :
    ∃ failure, (linked .danglingOperator operator (rule (limit + 1)) middle).outcome =
      .failed failure := by
  obtain hlink | ⟨link, behind, hlink, hitem⟩ := linked_failed.mp hfailed
  · exact ⟨_, linked_failed.mpr (.inl hlink)⟩
  · have hinner := rule_failed hrule (hoperator hmiddle hlink) hitem limit
    exact ⟨_, linked_failed.mpr (.inr ⟨link, behind, hlink, hinner⟩)⟩

theorem below_unfinished (hmiddle : kind.holds middle)
    (hunfinished : (linked .danglingOperator operator operand middle).outcome = .unfinished)
    (limit : Nat) :
    (linked .danglingOperator operator (rule (limit + 1)) middle).outcome = .unfinished := by
  obtain hlink | ⟨link, behind, hlink, hitem⟩ := linked_unfinished.mp hunfinished
  · exact linked_unfinished.mpr (.inl hlink)
  · have hinner := rule_unfinished hrule (hoperator hmiddle hlink) hitem limit
    exact linked_unfinished.mpr (.inr ⟨link, behind, hlink, hinner⟩)

end

include hoperand hoperator

theorem rule_matched (hcursor : kind.holds cursor)
    (hfirst : (operand cursor).outcome = .matched first middle)
    (hpairs : Exhausts (linked .danglingOperator operator operand) middle pairs rest)
    (limit : Nat) :
    (rule (pairs.length + limit + 2) cursor).outcome = .matched (nestRight join first pairs) rest := by
  -- the first operand of the level below is the operand of the next pair
  induction hpairs generalizing cursor first with
  | done hfailed =>
    obtain ⟨failure, hbelow⟩ := below_failed hoperator hrule (hoperand hcursor hfirst) hfailed
      (0 + limit)
    rw [List.length_nil, rule_behind hrule hcursor hfirst, hbelow]
    rfl
  | @next middle pair stop pairs rest hpair _ ih =>
    obtain ⟨link, value⟩ := pair
    obtain ⟨behind, hlink, hitem⟩ := linked_matched.mp hpair
    have hinner := ih (hoperator (hoperand hcursor hfirst) hlink) hitem
    have hlevel : ((link, value) :: pairs).length + limit + 2 = pairs.length + limit + 2 + 1 := by
      rw [List.length_cons]
      omega
    rw [hlevel, rule_behind hrule hcursor hfirst, linked_outcome, hlink]
    simp only [Outcome.andThen, hinner]
    rfl

theorem rule_stuck (hcursor : kind.holds cursor)
    (hfirst : (operand cursor).outcome = .matched first middle)
    (hstuck : Stuck (linked .danglingOperator operator operand) middle) :
    ∃ enough, ∀ limit, (rule (enough + limit) cursor).outcome = .unfinished := by
  induction hstuck generalizing cursor first with
  | here hunfinished =>
    refine ⟨2, fun limit => ?_⟩
    have hmiddle := hoperand hcursor hfirst
    rw [Nat.add_comm, rule_behind hrule hcursor hfirst,
      below_unfinished hoperator hrule hmiddle hunfinished]
    rfl
  | @next middle pair stop hpair _ ih =>
    obtain ⟨behind, hlink, hitem⟩ := linked_matched.mp hpair
    obtain ⟨enough, hinner⟩ := ih (hoperator (hoperand hcursor hfirst) hlink) hitem
    refine ⟨enough + 1, fun limit => ?_⟩
    rw [Nat.add_right_comm, rule_behind hrule hcursor hfirst, linked_outcome, hlink]
    simp only [Outcome.andThen, hinner]
    rfl

variable (rule) in
theorem mirrored (hadvances : Advances kind operator operand) (hcursor : kind.holds cursor) :
    ∃ enough, ∀ limit, enough ≤ limit → Mirrored operand operator fold join cursor
      (chainl limit operand (fold <$> operator) cursor).outcome (rule limit cursor).outcome := by
  suffices ∃ enough, ∀ more, Mirrored operand operator fold join cursor
      (chainl (enough + more) operand (fold <$> operator) cursor).outcome
      (rule (enough + more) cursor).outcome by
    obtain ⟨enough, h⟩ := this
    refine ⟨enough, fun limit hlimit => ?_⟩
    obtain ⟨more, rfl⟩ := Nat.exists_eq_add_of_le hlimit
    exact h more
  cases hfirst : (operand cursor).outcome with
  | failed cause =>
    refine ⟨1, fun more => ?_⟩
    rw [chainl_fold_outcome, hfirst, Nat.add_comm, rule_failed hrule hcursor hfirst]
    exact .failed hfirst
  | unfinished =>
    refine ⟨1, fun more => ?_⟩
    rw [chainl_fold_outcome, hfirst, Nat.add_comm, rule_unfinished hrule hcursor hfirst]
    exact .unfinished ⟨cursor, .inl hfirst⟩
  | matched first middle =>
    obtain ⟨pairs, rest, h⟩ | h := exhausts_or_stuck
      (hadvances.linked hoperand hoperator .danglingOperator) (hoperand hcursor hfirst)
    · refine ⟨pairs.length + 2, fun more => ?_⟩
      have hstar := star_exhausts.mpr ⟨(by omega : pairs.length < pairs.length + 2 + more), h⟩
      have hmatched := rule_matched hoperand hoperator hrule hcursor hfirst h more
      rw [Nat.add_right_comm] at hmatched
      rw [chainl_fold_outcome, hfirst, hmatched]
      simp only [hstar]
      exact .matched hfirst h
    · obtain ⟨enough, hrule⟩ := rule_stuck hoperand hoperator hrule hcursor hfirst h
      refine ⟨enough, fun more => ?_⟩
      rw [chainl_fold_outcome, hfirst, hrule]
      simp only [h.star_unfinished]
      exact .unfinished h.linked_part

end

end Parser

/-- A tuple of an operand, an operator and an operand joined; any other value as it is. -/
def Value.Fold.ofTuple (fold : Value.Fold) : Value → Value
  | .tuple [left, operator, right] => fold operator left right
  | value => value

namespace Grammar

def rightNested (name : Text) (operand operator : Grammar) (node : Value.Fold) : Grammar :=
  .choose [.map (.tuple [operand, operator, .rule name]) node.ofTuple, operand]

theorem stays_of_closed {rules : Rules} {own : List Grammar} (hplain : ∀ part ∈ own, part.Plain)
    (hcalls : ∀ part ∈ own, ∀ inner ∈ part.calls rules, inner ∈ own ∨ inner.Every rules Stays) :
    ∀ part ∈ own, part.Every rules Stays := by
  intro part hpart inner hinner
  suffices h : inner ∈ own ∨ inner.Every rules Stays by
    obtain h | h := h
    · exact (hplain inner h).stays
    · exact h.self
  induction hinner with
  | refl => exact .inl hpart
  | tail _ hcall ih =>
    obtain h | h := ih
    · exact hcalls _ h _ hcall
    · exact .inr (h.call hcall)

variable {rules : Rules} {name : Text} {operand operator : Grammar} {fold node : Value.Fold}
  {source : Text} {cursor : Cursor} {limit : Nat}

section
variable (hname : rules.lookup name = some (rightNested name operand operator node))
  (hoperand : operand.Every rules Stays) (hoperator : operator.Every rules Stays)
include hname hoperand hoperator

theorem rightNested_stays : (rule name).Every rules Stays := by
  let own : List Grammar := [.rule name, rightNested name operand operator node,
    .map (.tuple [operand, operator, .rule name]) node.ofTuple,
    .tuple [operand, operator, .rule name]]
  have hplain : ∀ part ∈ own, part.Plain := by simp [own, Plain, rightNested]
  refine stays_of_closed hplain ?_ (.rule name) List.mem_cons_self
  simp [own, rightNested, hname, hoperand, hoperator]

theorem rule_alike :
    Parser.Alike source ((rule name).parser rules)
      (Parser.choose [node.ofTuple <$> Value.tuple <$> Parser.sequence
        [operand.parser rules, operator.parser rules, (rule name).parser rules],
        operand.parser rules]) := by
  have hlimit := Nat.lt_succ_self source.length
  have hrule := rightNested_stays hname hoperand hoperator
  have hbody : (rightNested name operand operator node).Every rules Stays :=
    hrule.call (by simp [hname])
  have hnested : (map (.tuple [operand, operator, .rule name]) node.ofTuple).Every rules Stays :=
    hbody.call (by simp [rightNested])
  have htuple : (tuple [operand, operator, .rule name]).Every rules Stays :=
    hnested.call (by simp)
  have hopened := parser_alike hrule hlimit
  simp only [assemble, hname] at hopened
  have hfirst := (parser_alike hnested hlimit).trans (.map (parser_alike htuple hlimit) _)
  exact hopened.trans ((parser_alike hbody hlimit).trans
    (.choose (.cons hfirst (.cons (parser_alike_self hoperand) .nil))))

theorem rule_level (hcursor : Cursor.On source cursor) :
    ((rule name).parser rules cursor).outcome =
      Parser.level (operand.parser rules) (operator.parser rules) node ((rule name).parser rules)
        cursor := by
  rw [(rule_alike hname hoperand hoperator).outcome_eq hcursor]
  have hnode : ∀ link left right, (node.ofTuple ∘ Value.tuple) [id left, id link, id right] =
      node link left right := fun _ _ _ => rfl
  refine Parser.choose_level hnode ?_
  simp only [Parser.map_outcome, Outcome.map_map, Parser.id_map, Function.comp_def]

end

theorem pairs_advance (hoperand : operand.Every rules Stays) (hoperator : operator.Every rules Stays)
    (hmoves : ∀ place link middle value rest, place.OnSymbol →
      (operator.parser rules place).outcome = .matched link middle →
      (operand.parser rules middle).outcome = .matched value rest → place.index < rest.index) :
    Parser.Advances (.on source) (operator.parser rules) (operand.parser rules) := by
  intro place link middle value rest hplace hlink hvalue
  have hrest := parser_keeps hoperand (parser_keeps hoperator hplace hlink) hvalue
  have hsource : rest.source = place.source := hrest.source.trans hplace.source.symm
  refine ⟨hsource, hmoves _ _ _ _ _ hplace.onSymbol hlink hvalue, ?_⟩
  rw [← hsource]
  exact hrest.onSymbol.index_le

theorem chainl_alike (hoperand : operand.Every rules Stays) (hoperator : operator.Every rules Stays)
    (hlimit : source.length < limit) :
    Parser.Alike source ((chainl operand operator fold).parser rules)
      ((operand.parser rules).chainl limit (fold <$> operator.parser rules)) :=
  parser_alike (stays_of_parts trivial (by simp [hoperand, hoperator])) hlimit

/-- Where pairs of an operator and an operand read something, a chain and the rule that is written
with the recursion on the right fail together where they were entered, or stop together with the
same operands and operators, joined from the left by the one and from the right by the other. -/
theorem rule_mirrors_chainl :
    (∀ {α β : Type} (operand : Parser α) (operator : Parser β) (fold join : β → α → α → α)
      (node : List (α ⊕ β) → α),
      (∀ link left right, node [.inl left, .inr link, .inl right] = join link left right) →
      Parser.Advances .all operator operand →
      ∀ cursor, ∃ enough, ∀ limit, enough ≤ limit →
        Parser.Mirrored operand operator fold join cursor
          (operand.chainl limit (fold <$> operator) cursor).outcome
          (Parser.rightRecursive operand operator node limit cursor).outcome) ∧
    ∀ (rules : Rules) (name : Text) (operand operator : Grammar) (fold node : Value.Fold)
      (cursor : Cursor),
      rules.lookup name = some (rightNested name operand operator node) →
      operand.Every rules Stays → operator.Every rules Stays →
      (∀ place link middle value rest, place.OnSymbol →
        (operator.parser rules place).outcome = .matched link middle →
        (operand.parser rules middle).outcome = .matched value rest → place.index < rest.index) →
      cursor.OnSymbol →
      Parser.Mirrored (operand.parser rules) (operator.parser rules) fold node cursor
        ((chainl operand operator fold).parser rules cursor).outcome
        ((rule name).parser rules cursor).outcome := by
  constructor
  · intro α β operand operator fold join node hnode hadvances cursor
    have hoperand : operand.Keeps .all := fun _ _ _ _ _ => trivial
    have hoperator : operator.Keeps .all := fun _ _ _ _ _ => trivial
    refine Parser.mirrored _ hoperand hoperator (fun limit place _ => ?_) hadvances trivial
    exact Parser.choose_level hnode (Parser.map_outcome _ _ _)
  · intro rules name operand operator fold node cursor hname hoperand hoperator hmoves hcursor
    obtain ⟨enough, hmirrored⟩ := Parser.mirrored (fun _ => (rule name).parser rules)
      (parser_keeps hoperand) (parser_keeps hoperator)
      (fun limit place => rule_level hname hoperand hoperator)
      (pairs_advance hoperand hoperator hmoves) (Cursor.On.rfl hcursor)
    have hlimit : cursor.source.length < enough + cursor.source.length.succ := by omega
    rw [(chainl_alike hoperand hoperator hlimit).outcome_eq (.rfl hcursor)]
    exact hmirrored _ (Nat.le_add_right enough _)

theorem pairs_read (hoperand : operand.Every rules Plain) (hoperator : operator.Every rules Plain)
    (hreads : ¬(Nullable rules operator ∧ Nullable rules operand)) (place : Cursor) (link : Value)
    (middle : Cursor) (value : Value) (rest : Cursor) (hplace : place.OnSymbol)
    (hlink : (operator.parser rules place).outcome = .matched link middle)
    (hvalue : (operand.parser rules middle).outcome = .matched value rest) :
    place.index < rest.index := by
  obtain ⟨first, hfirst, hnullable⟩ := parser_moves hoperator hplace hlink
  obtain ⟨second, hsecond, hnullable'⟩ := parser_moves hoperand (hfirst.onSymbol hplace) hvalue
  refine (hfirst.trans hsecond).index_lt fun hempty => hreads ?_
  obtain ⟨hempty, hempty'⟩ := List.append_eq_nil_iff.mp hempty
  exact ⟨hnullable hempty, hnullable' hempty'⟩

def arrows : Rules := [(['e'], rightNested ['e'] (.character 'x') (.character '→') Value.Fold.node)]

theorem rule_mirrors_chainl_arrows :
    Parser.Mirrored ((character 'x').parser arrows) ((character '→').parser arrows)
      Value.Fold.node Value.Fold.node (.start ['x', '→', 'x', '→', 'x', '→'])
      (.matched (.node ['→'] (.node ['→'] (.char 'x') (.char 'x')) (.char 'x'))
        ⟨['x', '→', 'x', '→', 'x', '→'], 9⟩)
      (.matched (.node ['→'] (.char 'x') (.node ['→'] (.char 'x') (.char 'x')))
        ⟨['x', '→', 'x', '→', 'x', '→'], 9⟩) := by
  have hchainl : ((chainl (.character 'x') (.character '→') Value.Fold.node).parser arrows
      (.start ['x', '→', 'x', '→', 'x', '→'])).outcome =
      .matched (.node ['→'] (.node ['→'] (.char 'x') (.char 'x')) (.char 'x'))
        ⟨['x', '→', 'x', '→', 'x', '→'], 9⟩ := by cbv
  have hrule : ((rule ['e']).parser arrows (.start ['x', '→', 'x', '→', 'x', '→'])).outcome =
      .matched (.node ['→'] (.char 'x') (.node ['→'] (.char 'x') (.char 'x')))
        ⟨['x', '→', 'x', '→', 'x', '→'], 9⟩ := by cbv
  have hplain : ∀ symbol, (character symbol).Every arrows Plain :=
    fun symbol => every_of_calls trivial (by simp)
  rw [← hchainl, ← hrule]
  refine rule_mirrors_chainl.2 arrows ['e'] _ _ Value.Fold.node Value.Fold.node _ rfl
    (character_stays arrows 'x') (character_stays arrows '→')
    (pairs_read (hplain 'x') (hplain '→') ?_) (Cursor.onSymbol_start _)
  rintro ⟨⟨⟩, -⟩

end Grammar

end Descent
