import Mathlib.Data.Fintype.Card
import Mathlib.Data.Set.Finite.Basic
import Descent.Proofs.Grammar.Depth
import Descent.Proofs.Grammar.Nullable

/-!
# Guarded grammars end

`Leads` takes a grammar to those that it may run before anything is read. In a
guarded grammar no rule leads to itself and no round of a repetition may read
nothing; its parser matches or fails at every place of every text
(`parser_ends`). No single number goes down along a run: a part is run either
behind something that was read, where less text is left, or at the place of the
whole, where `Leads` goes down. It does since a cycle of it would go through a
rule (`leads_wellFounded`).
-/

namespace Descent

def Parser.Ends (parser : Parser α) (cursor : Cursor) : Prop := (parser cursor).outcome ≠ .unfinished

namespace Parser.Ends

variable {α β γ : Type} {cursor : Cursor} {parser item : Parser α} {link : Parser β}

theorem character (expected : Char) : (character expected).Ends cursor := by
  simp only [Ends, Parser.character, here_bind]
  split <;> simp [bind_outcome]

theorem literal (expected : Text) : (literal expected).Ends cursor := by
  simp only [Ends, Parser.literal, here_bind]
  split <;> simp [bind_outcome]

theorem pattern (searched : Pattern) : (pattern searched).Ends cursor := by
  simp only [Ends, Parser.pattern, here_bind]
  cases searched.matchStart? cursor.remainder <;> simp [bind_outcome]

theorem map {f : α → β} (h : parser.Ends cursor) : (f <$> parser).Ends cursor :=
  mt map_unfinished.mp h

theorem each {part : γ → Parser α} {parts : List γ}
    (h : ∀ before inner after values middle, parts = before ++ inner :: after →
      Threads (before.map part) cursor values middle → (part inner).Ends middle) :
    (each (parts.map part)).Ends cursor := by
  induction parts generalizing cursor with
  | nil => simp [Ends]
  | cons first parts ih =>
    intro hunfinished
    rcases bind_unfinished.mp hunfinished with hfirst | ⟨value, middle, hfirst, hlater⟩
    · exact h [] first parts [] cursor rfl .nil hfirst
    · refine ih ?_ (map_unfinished.mp hlater)
      rintro before inner after values stop rfl hthreads
      exact h (first :: before) inner after _ stop rfl (.cons hfirst hthreads)

theorem sequence {nullable : γ → Prop} {part : γ → Parser α} {parts : List γ}
    (hmoves : ∀ inner ∈ parts, (part inner).Moves (nullable inner)) (hcursor : cursor.OnSymbol)
    (h : ∀ before inner after text middle, parts = before ++ inner :: after →
      cursor.Reads text middle → (text = [] → ∀ earlier ∈ before, nullable earlier) →
      (part inner).Ends middle) :
    (sequence (parts.map part)).Ends cursor := by
  refine mt sequence_unfinished.mp (each ?_)
  rintro before inner after values middle rfl hthreads
  have hbefore : ∀ earlier ∈ before, (part earlier).Moves (nullable earlier) :=
    fun earlier hmem => hmoves earlier (List.mem_append_left _ hmem)
  obtain ⟨text, hreads, hnullable⟩ := Moves.threads hbefore hcursor hthreads
  exact h before inner after text middle rfl hreads hnullable

theorem between {opening : Parser α} {closing : Parser β} {inner : Parser γ}
    (hopening : opening.Ends cursor)
    (hinner : ∀ first opened, (opening cursor).outcome = .matched first opened →
      inner.Ends opened)
    (hclosing : ∀ first opened value closed, (opening cursor).outcome = .matched first opened →
      (inner opened).outcome = .matched value closed → closing.Ends closed) :
    (opening.between closing inner).Ends cursor := by
  intro hunfinished
  simp only [Parser.between, anchored_unfinished, bind_unfinished, pure_outcome, reduceCtorEq,
    and_false, exists_false, or_false] at hunfinished
  obtain h | ⟨first, opened, h, h' | ⟨value, closed, h', h''⟩⟩ := hunfinished
  · exact hopening h
  · exact hinner first opened h h'
  · exact hclosing first opened value closed h h' h''

theorem firstOf {parsers : List (Parser α)} (h : ∀ parser ∈ parsers, parser.Ends cursor)
    (number : Nat) : (firstOf number parsers).Ends cursor := by
  induction parsers generalizing number with
  | nil => simp [Ends, Parser.firstOf]
  | cons first parsers ih =>
    obtain ⟨hfirst, hlater⟩ := List.forall_mem_cons.mp h
    intro hunfinished
    simp only [Parser.firstOf, onFailure_unfinished, emit_bind_outcome] at hunfinished
    obtain h | ⟨-, -, h⟩ := hunfinished
    · exact hfirst h
    · exact ih hlater (number + 1) h

theorem star (hmoves : parser.Moves False) (hcursor : cursor.OnSymbol)
    (hlimit : cursor.remainder.length < limit)
    (h : ∀ text middle, cursor.Reads text middle → parser.Ends middle) :
    (star limit parser).Ends cursor := by
  induction limit generalizing cursor with
  | zero => exact absurd hlimit (Nat.not_lt_zero _)
  | succ limit ih =>
    intro hunfinished
    rcases star_succ_unfinished.mp hunfinished with hfirst | ⟨value, middle, hfirst, hlater⟩
    · exact h [] cursor .rfl hfirst
    · obtain ⟨text, hreads, hnil⟩ := hmoves hcursor hfirst
      have hless := hreads.length_lt hnil
      refine ih (hreads.onSymbol hcursor) (by omega) ?_ hlater
      exact fun text' stop hreads' => h _ stop (hreads.trans hreads')

theorem linked {dangling : Nat → Event} (hlink : link.Ends cursor)
    (hitem : ∀ connection middle, (link cursor).outcome = .matched connection middle →
      item.Ends middle) :
    (linked dangling link item).Ends cursor := by
  intro hunfinished
  rcases linked_unfinished.mp hunfinished with h | ⟨connection, middle, h, h'⟩
  · exact hlink h
  · exact hitem connection middle h h'

theorem chain {reason : Nat → Reason} {dangling : Nat → Event} {nullable nullable' : Prop}
    (hitem : item.Moves nullable) (hlink : link.Moves nullable') (hnot : ¬(nullable ∧ nullable'))
    (hcursor : cursor.OnSymbol) (hlimit : cursor.remainder.length < limit)
    (h : ∀ text middle, cursor.Reads text middle → item.Ends middle)
    (h' : ∀ text middle, cursor.Reads text middle → (text = [] → nullable) → link.Ends middle) :
    (chain limit reason dangling item link).Ends cursor := by
  intro hunfinished
  rcases chain_unfinished.mp hunfinished with hfirst | ⟨first, middle, hfirst, hstar⟩
  · exact h [] cursor .rfl hfirst
  · obtain ⟨text, hreads, hnullable⟩ := hitem hcursor hfirst
    have hpair : (Parser.linked dangling link item).Moves False :=
      (Parser.Moves.linked hlink hitem).imp fun ⟨hlink, hitem⟩ => hnot ⟨hitem, hlink⟩
    have hless := hreads.length_le
    refine star hpair (hreads.onSymbol hcursor) (by omega) ?_ hstar
    intro text' stop hreads'
    have hread := hreads.trans hreads'
    refine linked (h' _ stop hread fun hnil => ?_) fun connection behind hmatched => ?_
    · exact hnullable (List.append_eq_nil_iff.mp hnil).1
    · obtain ⟨text'', hreads'', -⟩ := hlink (hread.onSymbol hcursor) hmatched
      exact h _ behind (hread.trans hreads'')

end Parser.Ends

namespace Grammar

/-- From one grammar to those that it may run before anything is read. -/
inductive Leads (rules : Rules) : Grammar → Grammar → Prop
  | tuple : (∀ earlier ∈ before, Nullable rules earlier) →
      Leads rules (.tuple (before ++ part :: after)) part
  | list : (∀ earlier ∈ before, Nullable rules earlier) →
      Leads rules (.list (before ++ part :: after)) part
  | choose : alternative ∈ alternatives → Leads rules (.choose alternatives) alternative
  | optional : Leads rules (.optional body) body
  | many : Leads rules (.many body least) body
  | item : Leads rules (.interpose item separator) item
  | separator : Nullable rules item → Leads rules (.interpose item separator) separator
  | opening {inner : Grammar} : Leads rules (.between opening closing inner) opening
  | inner {inner : Grammar} : Nullable rules opening →
      Leads rules (.between opening closing inner) inner
  | closing {inner : Grammar} : Nullable rules opening → Nullable rules inner →
      Leads rules (.between opening closing inner) closing
  | operand : Leads rules (.chainl operand operator fold) operand
  | operator : Nullable rules operand → Leads rules (.chainl operand operator fold) operator
  | map : Leads rules (.map body mapping) body
  | filter : Leads rules (.filter body test message) body
  | indexed : Leads rules (.indexed body) body
  | rule : rules.lookup name = some body → Leads rules (.rule name) body

/-- The grammar has nothing to repeat for ever at one place, and names a rule only if it is there
and does not lead to itself. -/
def Guarded (rules : Rules) : Grammar → Prop
  | .leaf _ | .mapState _ _ => False
  | .many body _ => ¬Nullable rules body
  | .interpose item separator => ¬(Nullable rules item ∧ Nullable rules separator)
  | .chainl operand operator _ => ¬(Nullable rules operand ∧ Nullable rules operator)
  | .rule name => (rules.lookup name).isSome ∧
      ¬Relation.TransGen (Leads rules) (.rule name) (.rule name)
  | _ => True

variable {rules : Rules} {grammar : Grammar}

theorem Guarded.plain (h : grammar.Guarded rules) : grammar.Plain := by
  cases grammar <;> trivial

-- ---------------------------------------------------------------------------
-- Leading goes down
-- ---------------------------------------------------------------------------

theorem Leads.mem_calls (h : Leads rules grammar part) : part ∈ grammar.calls rules := by
  cases h <;> simp_all

theorem Leads.size_lt (h : Leads rules grammar part) (hrule : ∀ name, grammar ≠ .rule name) :
    part.size < grammar.size := by
  refine size_lt_of_mem_parts ?_
  have hmem := h.mem_calls
  cases grammar with
  | rule name => exact absurd rfl (hrule name)
  | _ => exact hmem

theorem size_lt_or_rule (h : Relation.TransGen (Leads rules) grammar part) :
    part.size < grammar.size ∨ ∃ name, Relation.ReflTransGen (Leads rules) grammar (.rule name) ∧
      Relation.TransGen (Leads rules) (.rule name) part := by
  have hstep : ∀ {inner part}, Leads rules inner part → part.size < inner.size ∨
      ∃ name, inner = .rule name := by
    intro inner part h
    by_cases hrule : ∃ name, inner = .rule name
    · exact .inr hrule
    · exact .inl (h.size_lt fun name heq => hrule ⟨name, heq⟩)
  induction h with
  | single h =>
    obtain hless | ⟨name, rfl⟩ := hstep h
    · exact .inl hless
    · exact .inr ⟨name, .refl, .single h⟩
  | tail hway h ih =>
    obtain hless | ⟨name, rfl⟩ := hstep h
    · obtain hless' | ⟨name, hto, hfrom⟩ := ih
      · exact .inl (hless.trans hless')
      · exact .inr ⟨name, hto, hfrom.tail h⟩
    · exact .inr ⟨name, hway.to_reflTransGen, .single h⟩

theorem Leads.within (h : Relation.ReflTransGen (Leads rules) grammar part) :
    Within rules grammar part :=
  Relation.ReflTransGen.mono (fun _ _ h => Leads.mem_calls h) _ _ h

theorem leads_acyclic (hguarded : grammar.Every rules (Guarded rules)) :
    ¬Relation.TransGen (Leads rules) grammar grammar := by
  intro hcycle
  obtain hless | ⟨name, hto, hfrom⟩ := size_lt_or_rule hcycle
  · exact Nat.lt_irrefl _ hless
  · exact (hguarded _ (Leads.within hto)).2 (hfrom.trans_left hto)

/-- There are finitely many grammars that a run can come to, and no way back to one along `Leads`. -/
theorem leads_wellFounded (hguarded : grammar.Every rules (Guarded rules)) :
    WellFounded fun inner outer : { part // Within rules grammar part } =>
      Leads rules outer.1 inner.1 := by
  let below (inner outer : { part // Within rules grammar part }) : Prop :=
    Relation.TransGen (Leads rules) outer.1 inner.1
  -- a transitive relation without cycles on finitely many grammars
  have : Finite { part // Within rules grammar part } :=
    ((grammar.allNodes rules).finite_toSet.subset fun _ => Within.mem_allNodes).to_subtype
  have : IsTrans _ below := ⟨fun _ _ _ h h' => Relation.TransGen.trans h' h⟩
  have : Std.Irrefl below := ⟨fun part => leads_acyclic (hguarded.within part.2)⟩
  have hwell : WellFounded below := Finite.wellFounded_of_trans_of_irrefl below
  exact Subrelation.wf (fun h => Relation.TransGen.single h) hwell

-- ---------------------------------------------------------------------------
-- One level
-- ---------------------------------------------------------------------------

theorem assemble_ends {part : Grammar → Parser Value} (hguarded : grammar.Guarded rules)
    (hmoves : ∀ inner ∈ grammar.calls rules, (part inner).Moves (Nullable rules inner))
    (hcursor : cursor.OnSymbol) (hlimit : cursor.remainder.length < limit)
    (hends : ∀ inner ∈ grammar.calls rules, ∀ text middle, cursor.Reads text middle →
      (text = [] → Leads rules grammar inner) → (part inner).Ends middle) :
    (assemble rules limit part grammar).Ends cursor := by
  cases grammar with
  | character expected => exact (Parser.Ends.character expected).map
  | literal expected => exact (Parser.Ends.literal expected).map
  | pattern searched => exact (Parser.Ends.pattern searched).map
  | leaf function => exact hguarded.elim
  | tuple parts =>
    refine Parser.Ends.map (Parser.Ends.sequence hmoves hcursor ?_)
    rintro before inner after text middle rfl hreads hnullable
    exact hends inner (by simp) text middle hreads fun hnil => .tuple (hnullable hnil)
  | list parts =>
    refine Parser.Ends.map (Parser.Ends.sequence hmoves hcursor ?_)
    rintro before inner after text middle rfl hreads hnullable
    exact hends inner (by simp) text middle hreads fun hnil => .list (hnullable hnil)
  | choose alternatives =>
    refine Parser.Ends.firstOf (fun parser hmem => ?_) 0
    obtain ⟨alternative, halternative, rfl⟩ := List.mem_map.mp hmem
    exact hends alternative halternative [] cursor .rfl fun _ => .choose halternative
  | optional body =>
    have hbody := hends body List.mem_cons_self [] cursor .rfl fun _ => .optional
    exact Parser.Ends.map (mt Parser.optional_unfinished.mp hbody)
  | many body least =>
    have hbody := (hmoves body List.mem_cons_self).imp hguarded
    refine Parser.Ends.map (mt Parser.many_unfinished.mp ?_)
    exact Parser.Ends.star hbody hcursor hlimit fun text middle hreads =>
      hends body List.mem_cons_self text middle hreads fun _ => .many
  | interpose item separator =>
    have hitem : item ∈ (Grammar.interpose item separator).calls rules := by simp
    have hseparator : separator ∈ (Grammar.interpose item separator).calls rules := by simp
    refine Parser.Ends.map (mt Parser.interpose_unfinished.mp ?_)
    exact Parser.Ends.chain (hmoves item hitem) (hmoves separator hseparator) hguarded hcursor hlimit
      (fun text middle hreads => hends item hitem text middle hreads fun _ => .item)
      (fun text middle hreads hnullable =>
        hends separator hseparator text middle hreads fun hnil => .separator (hnullable hnil))
  | between opening closing inner =>
    have hopening : opening ∈ (Grammar.between opening closing inner).calls rules := by simp
    have hinner : inner ∈ (Grammar.between opening closing inner).calls rules := by simp
    refine Parser.Ends.between (hends opening hopening [] cursor .rfl fun _ => .opening) ?_ ?_
    · intro first opened hmatched
      obtain ⟨text, hreads, hnullable⟩ := hmoves opening hopening hcursor hmatched
      exact hends inner hinner text opened hreads fun hnil => .inner (hnullable hnil)
    · intro first opened value closed hmatched hmatched'
      obtain ⟨text, hreads, hnullable⟩ := hmoves opening hopening hcursor hmatched
      obtain ⟨text', hreads', hnullable'⟩ :=
        hmoves inner hinner (hreads.onSymbol hcursor) hmatched'
      refine hends closing (by simp) _ closed (hreads.trans hreads') fun hnil => ?_
      obtain ⟨hnil, hnil'⟩ := List.append_eq_nil_iff.mp hnil
      exact .closing (hnullable hnil) (hnullable' hnil')
  | chainl operand operator fold =>
    have hoperand : operand ∈ (Grammar.chainl operand operator fold).calls rules := by simp
    have hoperator : operator ∈ (Grammar.chainl operand operator fold).calls rules := by simp
    refine mt Parser.chainl_unfinished.mp ?_
    exact Parser.Ends.chain (hmoves operand hoperand) (hmoves operator hoperator).map hguarded
      hcursor hlimit
      (fun text middle hreads => hends operand hoperand text middle hreads fun _ => .operand)
      (fun text middle hreads hnullable => Parser.Ends.map <|
        hends operator hoperator text middle hreads fun hnil => .operator (hnullable hnil))
  | map body mapping =>
    exact Parser.Ends.map (hends body List.mem_cons_self [] cursor .rfl fun _ => .map)
  | mapState body revision => exact hguarded.elim
  | filter body test message =>
    have hbody := hends body List.mem_cons_self [] cursor .rfl fun _ => .filter
    exact mt Parser.filter_unfinished.mp hbody
  | indexed body =>
    have hbody := hends body List.mem_cons_self [] cursor .rfl fun _ => .indexed
    exact Parser.Ends.map (mt Parser.indexed_unfinished.mp hbody)
  | rule name =>
    obtain ⟨body, hbody⟩ := Option.isSome_iff_exists.mp hguarded.1
    have hends' := hends body (by simp [hbody]) [] cursor .rfl fun _ => .rule hbody
    simp only [assemble, hbody]
    exact hends'

-- ---------------------------------------------------------------------------
-- All runs
-- ---------------------------------------------------------------------------

theorem remainder_length_le {cursor : Cursor} (h : cursor.OnSymbol) :
    cursor.remainder.length ≤ cursor.source.length := by
  obtain ⟨before, hsource, -⟩ := h.split
  rw [hsource, List.length_append]
  exact Nat.le_add_left _ _

/-- The parser of a guarded grammar matches or fails, wherever it is entered. -/
theorem parser_ends (hguarded : grammar.Every rules (Guarded rules)) (hcursor : cursor.OnSymbol) :
    (grammar.parser rules cursor).outcome ≠ .unfinished := by
  suffices ∀ part : { part // Within rules grammar part }, (part.1.parser rules).Ends cursor from
    this ⟨grammar, .refl⟩
  have hplain {part} (h : Within rules grammar part) : part.Every rules Plain :=
    (hguarded.within h).imp fun _ => Guarded.plain
  -- either less text is left, or as much and the grammar is one that the last one led to
  induction hlength : cursor.remainder.length using Nat.strongRecOn generalizing cursor with
  | ind length ihLess =>
    intro part
    induction part using (leads_wellFounded hguarded).induction with
    | _ part ihLeads =>
      obtain ⟨part, hpart⟩ := part
      have hstays : part.Every rules Stays := (hplain hpart).imp fun _ => Plain.stays
      rw [Parser.Ends, parser_outcome hstays hcursor (Nat.lt_succ_self _)]
      have hless := remainder_length_le hcursor
      refine assemble_ends (hguarded.within hpart).self
        (fun inner hinner => parser_moves (hplain (hpart.tail hinner))) hcursor (by omega) ?_
      intro inner hinner text middle hreads hleads
      obtain rfl | hread := eq_or_ne text []
      · rw [hreads.eq_of_nil]
        exact ihLeads ⟨inner, hpart.tail hinner⟩ (hleads rfl)
      · exact ihLess _ (hlength ▸ hreads.length_lt hread) (hreads.onSymbol hcursor) rfl
          ⟨inner, hpart.tail hinner⟩

def bracketed : Grammar :=
  .between (.character '[') (.character ']')
    (.optional (.interpose (.rule ['v']) (.character ',')))

def brackets : Rules := [(['v'], .choose [bracketed, .character 'x'])]

theorem brackets_leads (h : Relation.TransGen (Leads brackets) (.rule ['v']) part) :
    part ∈ [.choose [bracketed, .character 'x'], bracketed, .character '[', .character 'x'] := by
  induction h with
  | single h =>
    cases h with
    | rule hbody =>
      cases hbody
      simp
  | tail _ h ih =>
    simp only [List.mem_cons, List.not_mem_nil, or_false] at ih
    obtain rfl | rfl | rfl | rfl := ih
    · cases h with
      | choose hmem => obtain rfl | rfl := List.mem_pair.mp hmem <;> simp
    · cases h with
      | opening => simp
      | inner hnullable => cases hnullable
      | closing hnullable => cases hnullable
    · cases h
    · cases h

theorem brackets_guarded : (Grammar.rule ['v']).Every brackets (Guarded brackets) := by
  intro part hpart
  have hmem := hpart.mem_allNodes
  simp only [allNodes, nodes_eq, parts, brackets, bracketed, List.flatMap_nil, List.flatMap_cons,
    List.append_nil, List.nil_append, List.cons_append, List.mem_cons, List.not_mem_nil,
    or_false] at hmem
  have hrule : Guarded brackets (.rule ['v']) :=
    ⟨rfl, fun hcycle => by simpa [bracketed] using brackets_leads hcycle⟩
  have hcomma : ¬Nullable brackets (.character ',') := nofun
  obtain rfl | rfl | rfl | rfl | rfl | rfl | rfl | rfl | rfl | rfl := hmem
  all_goals first | trivial | exact hrule | exact fun h => hcomma h.2

theorem parser_ends_brackets :
    ((Grammar.rule ['v']).parser brackets (.start ['[', '[', 'x', ','])).outcome ≠ .unfinished :=
  parser_ends brackets_guarded (Cursor.onSymbol_start _)

end Grammar

end Descent
