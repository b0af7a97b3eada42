import Descent.Proofs.Cursor
import Descent.Proofs.Grammar.Parts
import Descent.Proofs.Parser.Outcome

/-!
# Grammars as rules of derivation

`Derives` says what a grammar makes of a text, by rules alone: over the list of
symbols that is left, with no cursors, bytes, limits or loops. A repetition ends
where its body fails, or goes on behind a match of its body; a choice is its
first alternative, or the choice of the others where that fails; an interposed
list and a chain are an item and then a repetition of pairs, each pair a
sequence.

The grammars meant are those that look at nothing but symbols (`Symbolic`).
Every run that ends comes to what is derived (`run_follows`).
-/

namespace Descent.Grammar

/-- What a grammar makes of a text: a value and the text that is left, or nothing. -/
inductive Result where
  | matched (value : Value) (rest : Text)
  | failed

inductive Derives (rules : Rules) : Grammar → Text → Result → Prop
  -- primitives
  | character : Derives rules (.character symbol) (symbol :: rest) (.matched (.char symbol) rest)
  | character_failed : text.head? ≠ some symbol → Derives rules (.character symbol) text .failed
  | literal : Derives rules (.literal expected) (expected ++ rest) (.matched (.text expected) rest)
  | literal_failed : ¬expected <+: text → Derives rules (.literal expected) text .failed
  | pattern : searched.matchStart? text = some (found, length) →
      Derives rules (.pattern searched) text (.matched (.captures found) (text.drop length))
  | pattern_failed : searched.matchStart? text = none →
      Derives rules (.pattern searched) text .failed
  -- sequences
  | list_nil : Derives rules (.list []) text (.matched (.list []) text)
  | list_cons : Derives rules part text (.matched value middle) →
      Derives rules (.list later) middle (.matched (.list values) rest) →
      Derives rules (.list (part :: later)) text (.matched (.list (value :: values)) rest)
  | list_first_failed : Derives rules part text .failed →
      Derives rules (.list (part :: later)) text .failed
  | list_later_failed : Derives rules part text (.matched value middle) →
      Derives rules (.list later) middle .failed → Derives rules (.list (part :: later)) text .failed
  | tuple : Derives rules (.list all) text (.matched (.list values) rest) →
      Derives rules (.tuple all) text (.matched (.tuple values) rest)
  | tuple_failed : Derives rules (.list all) text .failed → Derives rules (.tuple all) text .failed
  | between {inner : Grammar} :
      Derives rules (.list [opening, inner, closing]) text
        (.matched (.list [first, value, last]) rest) →
      Derives rules (.between opening closing inner) text (.matched value rest)
  | between_failed {inner : Grammar} :
      Derives rules (.list [opening, inner, closing]) text .failed →
      Derives rules (.between opening closing inner) text .failed
  -- choices
  | choose_nil : Derives rules (.choose []) text .failed
  | choose_first : Derives rules alternative text (.matched value rest) →
      Derives rules (.choose (alternative :: alternatives)) text (.matched value rest)
  | choose_later : Derives rules alternative text .failed →
      Derives rules (.choose alternatives) text result →
      Derives rules (.choose (alternative :: alternatives)) text result
  | optional_some : Derives rules body text (.matched value rest) →
      Derives rules (.optional body) text (.matched (.some value) rest)
  | optional_none : Derives rules body text .failed →
      Derives rules (.optional body) text (.matched .none text)
  -- repetitions
  | many_nil : Derives rules body text .failed →
      Derives rules (.many body 0) text (.matched (.list []) text)
  | many_cons : Derives rules body text (.matched value middle) →
      Derives rules (.many body 0) middle (.matched (.list values) rest) →
      Derives rules (.many body 0) text (.matched (.list (value :: values)) rest)
  | many_enough : Derives rules (.many body 0) text (.matched (.list values) rest) →
      least ≤ values.length → Derives rules (.many body least) text (.matched (.list values) rest)
  | many_few : Derives rules (.many body 0) text (.matched (.list values) rest) →
      values.length < least → Derives rules (.many body least) text .failed
  | interpose {pairs : List (Value × Value)} : Derives rules item text (.matched first middle) →
      Derives rules (.many (.tuple [separator, item]) 0) middle
        (.matched (.list (pairs.map fun (link, value) => .tuple [link, value])) rest) →
      Derives rules (.interpose item separator) text
        (.matched (.list (first :: pairs.flatMap fun (link, value) => [link, value])) rest)
  | interpose_failed : Derives rules item text .failed →
      Derives rules (.interpose item separator) text .failed
  | chainl {pairs : List (Value × Value)} : Derives rules operand text (.matched first middle) →
      Derives rules (.many (.tuple [operator, operand]) 0) middle
        (.matched (.list (pairs.map fun (link, value) => .tuple [link, value])) rest) →
      Derives rules (.chainl operand operator fold) text
        (.matched (pairs.foldl (fun joined (link, value) => fold link joined value) first) rest)
  | chainl_failed : Derives rules operand text .failed →
      Derives rules (.chainl operand operator fold) text .failed
  -- functions and rules
  | map : Derives rules body text (.matched value rest) →
      Derives rules (.map body mapping) text (.matched (mapping value) rest)
  | map_failed : Derives rules body text .failed → Derives rules (.map body mapping) text .failed
  | filter : Derives rules body text (.matched value rest) → test value = true →
      Derives rules (.filter body test message) text (.matched value rest)
  | filter_rejected : Derives rules body text (.matched value rest) → test value = false →
      Derives rules (.filter body test message) text .failed
  | filter_failed : Derives rules body text .failed →
      Derives rules (.filter body test message) text .failed
  | rule : rules.lookup name = some body → Derives rules body text result →
      Derives rules (.rule name) text result

/-- The grammar is of a form that looks at nothing but the symbols that are left. -/
def Symbolic : Grammar → Prop
  | .leaf _ | .mapState _ _ | .indexed _ => False
  | _ => True

/-- What the parser comes to from a symbol of a text is derived, up to how values are related. -/
structure Follows (rules : Rules) (value : α → Value → Prop) (grammar : Grammar)
    (parser : Parser α) : Prop where
  matched {cursor found rest} : cursor.OnSymbol → (parser cursor).outcome = .matched found rest →
    ∃ v text, value found v ∧ cursor.Reads text rest ∧
      Derives rules grammar cursor.remainder (.matched v rest.remainder)
  failed {cursor failure} : cursor.OnSymbol → (parser cursor).outcome = .failed failure →
    Derives rules grammar cursor.remainder .failed

namespace Follows

variable {rules : Rules} {value : α → Value → Prop}

-- ---------------------------------------------------------------------------
-- Primitives
-- ---------------------------------------------------------------------------

theorem character (expected : Char) :
    Follows rules Eq (.character expected) (.char <$> Parser.character expected) where
  matched := by
    intro cursor found rest hon h
    obtain ⟨_, hinner, rfl⟩ := Parser.map_matched.mp h
    obtain ⟨hcurrent, rfl, rfl⟩ := Parser.character_matched.mp hinner
    refine ⟨_, _, rfl, Cursor.reads_advance hon 1, ?_⟩
    obtain ⟨after, hafter⟩ := Cursor.remainder_eq_cons hcurrent
    rw [Cursor.remainder_advance hon, hafter]
    exact .character
  failed := by
    intro cursor failure _ h
    have hinner := Parser.character_failed.mp (Parser.map_failed.mp h)
    exact .character_failed hinner.1

theorem literal (expected : Text) :
    Follows rules Eq (.literal expected) (.text <$> Parser.literal expected) where
  matched := by
    intro cursor found rest hon h
    obtain ⟨_, hinner, rfl⟩ := Parser.map_matched.mp h
    obtain ⟨⟨after, hafter⟩, rfl, rfl⟩ := Parser.literal_matched.mp hinner
    have hreads := Cursor.reads_skipBytes hon hafter.symm
    refine ⟨_, _, rfl, hreads, ?_⟩
    rw [hreads.remainder]
    exact .literal
  failed := by
    intro cursor failure _ h
    have hinner := Parser.literal_failed.mp (Parser.map_failed.mp h)
    exact .literal_failed hinner.1

theorem pattern (searched : Pattern) :
    Follows rules Eq (.pattern searched) (.captures <$> Parser.pattern searched) where
  matched := by
    intro cursor found rest hon h
    obtain ⟨_, hinner, rfl⟩ := Parser.map_matched.mp h
    obtain ⟨length, hmatch, rfl⟩ := Parser.pattern_matched.mp hinner
    refine ⟨_, _, rfl, Cursor.reads_advance hon length, ?_⟩
    have hderives : Derives rules (.pattern searched) cursor.remainder _ := .pattern hmatch
    rwa [← Cursor.remainder_advance hon] at hderives
  failed := by
    intro cursor failure _ h
    have hinner := Parser.pattern_failed.mp (Parser.map_failed.mp h)
    exact .pattern_failed hinner.1

-- ---------------------------------------------------------------------------
-- Sequences
-- ---------------------------------------------------------------------------

theorem each {grammars : List Grammar} {parsers : List (Parser Value)}
    (h : List.Forall₂ (Follows rules Eq) grammars parsers) :
    Follows rules Eq (.list grammars) (.list <$> Parser.each parsers) := by
  induction h with
  | nil =>
    refine ⟨fun hon h => ?_, fun hon h => ?_⟩
    · obtain ⟨_, hinner, rfl⟩ := Parser.map_matched.mp h
      cases hinner
      exact ⟨_, [], rfl, .rfl, .list_nil⟩
    · simp [Parser.each] at h
  | cons hfirst _ ih =>
    refine ⟨fun hon h => ?_, fun hon h => ?_⟩
    · obtain ⟨_, hinner, rfl⟩ := Parser.map_matched.mp h
      cases Parser.each_matched.mp hinner with
      | cons hparser hlater =>
        obtain ⟨_, text, rfl, hreads, hderives⟩ := hfirst.matched hon hparser
        obtain ⟨_, text', rfl, hreads', hderives'⟩ := ih.matched (hreads.onSymbol hon)
          (Parser.map_matched.mpr ⟨_, Parser.each_matched.mpr hlater, rfl⟩)
        exact ⟨_, _, rfl, hreads.trans hreads', .list_cons hderives hderives'⟩
    · obtain hparser | ⟨found, middle, hparser, hlater⟩ :=
        Parser.each_cons_failed.mp (Parser.map_failed.mp h)
      · exact .list_first_failed (hfirst.failed hon hparser)
      · obtain ⟨_, text, rfl, hreads, hderives⟩ := hfirst.matched hon hparser
        have hlater := ih.failed (hreads.onSymbol hon) (Parser.map_failed.mpr hlater)
        exact .list_later_failed hderives hlater

theorem list {grammars : List Grammar} {parsers : List (Parser Value)}
    (h : List.Forall₂ (Follows rules Eq) grammars parsers) :
    Follows rules Eq (.list grammars) (.list <$> Parser.sequence parsers) := by
  refine ⟨fun hon hmatched => (each h).matched hon ?_, fun hon hfailed => ?_⟩
  · simpa only [Parser.map_matched, Parser.sequence_matched, Parser.each_matched] using hmatched
  · obtain ⟨cause, hcause, -⟩ := Parser.sequence_failed.mp (Parser.map_failed.mp hfailed)
    exact (each h).failed hon (Parser.map_failed.mpr hcause)

theorem tuple {grammars : List Grammar} {parsers : List (Parser Value)}
    (h : List.Forall₂ (Follows rules Eq) grammars parsers) :
    Follows rules Eq (.tuple grammars) (.tuple <$> Parser.sequence parsers) := by
  refine ⟨fun hon hmatched => ?_, fun hon hfailed => ?_⟩
  · obtain ⟨values, hinner, rfl⟩ := Parser.map_matched.mp hmatched
    obtain ⟨_, text, rfl, hreads, hderives⟩ := (list h).matched hon
      (Parser.map_matched.mpr ⟨_, hinner, rfl⟩)
    exact ⟨_, text, rfl, hreads, .tuple hderives⟩
  · have hinner := Parser.map_failed.mp hfailed
    exact .tuple_failed ((list h).failed hon (Parser.map_failed.mpr hinner))

section
variable {opening closing inner : Grammar} {parser opening' closing' inner' : Parser Value}

theorem between (hopening : Follows rules Eq opening opening')
    (hclosing : Follows rules Eq closing closing') (hinner : Follows rules Eq inner inner') :
    Follows rules Eq (.between opening closing inner) (opening'.between closing' inner') := by
  have hall := each (.cons hopening (.cons hinner (.cons hclosing .nil)))
  refine ⟨fun hon hmatched => ?_, fun {cursor} _ hon hfailed => ?_⟩
  · obtain ⟨first, opened, last, closed, h, h', h''⟩ := Parser.between_matched.mp hmatched
    have hthreads := Parser.each_matched.mpr (.cons h (.cons h' (.cons h'' .nil)))
    obtain ⟨_, text, rfl, hreads, hderives⟩ := hall.matched hon
      (Parser.map_matched.mpr ⟨_, hthreads, rfl⟩)
    exact ⟨_, text, rfl, hreads, .between hderives⟩
  · obtain ⟨cause, hcause, -⟩ := Parser.between_failed.mp hfailed
    have heach : (Parser.each [opening', inner', closing'] cursor).outcome = .failed cause := by
      simp only [Parser.each_cons_failed]
      exact hcause.imp_right fun ⟨first, opened, h, hrest⟩ => ⟨first, opened, h,
        hrest.imp_right fun ⟨value, closed, h', hlast⟩ => ⟨value, closed, h', .inl hlast⟩⟩
    exact .between_failed (hall.failed hon (Parser.map_failed.mpr heach))

-- ---------------------------------------------------------------------------
-- Choices
-- ---------------------------------------------------------------------------

theorem firstOf {grammars : List Grammar} {parsers : List (Parser Value)}
    (h : List.Forall₂ (Follows rules Eq) grammars parsers) (number : Nat) :
    Follows rules Eq (.choose grammars) (Parser.firstOf number parsers) := by
  induction h generalizing number with
  | nil => exact ⟨fun _ h => by simp [Parser.firstOf] at h, fun _ _ => .choose_nil⟩
  | cons hfirst _ ih =>
    refine ⟨fun hon h => ?_, fun hon h => ?_⟩
    · simp only [Parser.firstOf, Parser.onFailure_matched, Parser.emit_bind_outcome] at h
      obtain h | ⟨failure, hfailed, h⟩ := h
      · obtain ⟨_, text, rfl, hreads, hderives⟩ := hfirst.matched hon h
        exact ⟨_, text, rfl, hreads, .choose_first hderives⟩
      · obtain ⟨_, text, rfl, hreads, hderives⟩ := (ih _).matched hon h
        exact ⟨_, text, rfl, hreads, .choose_later (hfirst.failed hon hfailed) hderives⟩
    · simp only [Parser.firstOf, Parser.onFailure_failed, Parser.emit_bind_outcome] at h
      obtain ⟨cause, hfailed, h⟩ := h
      exact .choose_later (hfirst.failed hon hfailed) ((ih _).failed hon h)

theorem optional (h : Follows rules Eq body parser) :
    Follows rules Eq (.optional body) ((·.elim .none .some) <$> parser.optional) := by
  refine ⟨fun hon hmatched => ?_, fun hon hfailed => ?_⟩
  · obtain ⟨found, hinner, rfl⟩ := Parser.map_matched.mp hmatched
    cases found with
    | none =>
      obtain ⟨⟨failure, hfailed⟩, rfl⟩ := Parser.optional_none.mp hinner
      exact ⟨_, [], rfl, .rfl, .optional_none (h.failed hon hfailed)⟩
    | some found =>
      obtain ⟨_, text, rfl, hreads, hderives⟩ := h.matched hon (Parser.optional_some.mp hinner)
      exact ⟨_, text, rfl, hreads, .optional_some hderives⟩
  · exact absurd (Parser.map_failed.mp hfailed) Parser.optional_not_failed

end

-- ---------------------------------------------------------------------------
-- Repetitions
-- ---------------------------------------------------------------------------

theorem star {parser : Parser α} (h : Follows rules value body parser) (limit : Nat) :
    Follows rules (fun found v => ∃ values, v = .list values ∧ List.Forall₂ value found values)
      (.many body 0) (Parser.star limit parser) := by
  refine ⟨?_, fun _ hfailed => absurd hfailed Parser.star_not_failed⟩
  induction limit with
  | zero =>
    intro cursor found rest _ hmatched
    simp [Parser.star] at hmatched
  | succ limit ih =>
    intro cursor found rest hon hmatched
    obtain ⟨⟨failure, hfailed⟩, rfl, rfl⟩ | ⟨first, middle, later, hfirst, hlater, rfl⟩ :=
      Parser.star_succ_matched.mp hmatched
    · exact ⟨_, [], ⟨_, rfl, .nil⟩, .rfl, .many_nil (h.failed hon hfailed)⟩
    · obtain ⟨v, text, hvalue, hreads, hderives⟩ := h.matched hon hfirst
      obtain ⟨_, text', ⟨values, rfl, hvalues⟩, hreads', hderives'⟩ :=
        ih (hreads.onSymbol hon) hlater
      exact ⟨_, _, ⟨_, rfl, .cons hvalue hvalues⟩, hreads.trans hreads',
        .many_cons hderives hderives'⟩

theorem many {parser : Parser Value} (h : Follows rules Eq body parser) (limit least : Nat) :
    Follows rules Eq (.many body least) (.list <$> parser.many limit least) := by
  refine ⟨fun hon hmatched => ?_, fun hon hfailed => ?_⟩
  · obtain ⟨found, hinner, rfl⟩ := Parser.map_matched.mp hmatched
    obtain ⟨hstar, hleast⟩ := Parser.many_matched.mp hinner
    obtain ⟨_, text, ⟨values, rfl, hvalues⟩, hreads, hderives⟩ := (h.star limit).matched hon hstar
    rw [List.forall₂_eq_eq_eq] at hvalues
    subst hvalues
    exact ⟨_, text, rfl, hreads, .many_enough hderives hleast⟩
  · obtain ⟨found, rest, hstar, hfew, -⟩ := Parser.many_failed.mp (Parser.map_failed.mp hfailed)
    obtain ⟨_, text, ⟨values, rfl, hvalues⟩, hreads, hderives⟩ := (h.star limit).matched hon hstar
    exact .many_few hderives (hvalues.length_eq ▸ hfew)

-- ---------------------------------------------------------------------------
-- Chains
-- ---------------------------------------------------------------------------

section
variable {other : α → Value → Prop} {link' : Parser α} {item' : Parser Value} {dangling : Nat → Event}

theorem linked (hlink : Follows rules other link link') (hitem : Follows rules Eq item item') :
    Follows rules (fun pair v => ∃ first, other pair.1 first ∧ v = .tuple [first, pair.2])
      (.tuple [link, item]) (Parser.linked dangling link' item') := by
  refine ⟨fun hon hmatched => ?_, fun hon hfailed => ?_⟩
  · obtain ⟨middle, h, h'⟩ := Parser.linked_matched.mp hmatched
    obtain ⟨first, text, hother, hreads, hderives⟩ := hlink.matched hon h
    obtain ⟨_, text', rfl, hreads', hderives'⟩ := hitem.matched (hreads.onSymbol hon) h'
    exact ⟨_, _, ⟨first, hother, rfl⟩, hreads.trans hreads',
      .tuple (.list_cons hderives (.list_cons hderives' .list_nil))⟩
  · obtain h | ⟨found, middle, h, h'⟩ := Parser.linked_failed.mp hfailed
    · exact .tuple_failed (.list_first_failed (hlink.failed hon h))
    · obtain ⟨first, text, -, hreads, hderives⟩ := hlink.matched hon h
      have hsecond := hitem.failed (hreads.onSymbol hon) h'
      exact .tuple_failed (.list_later_failed hderives (.list_first_failed hsecond))

theorem exists_pairs {found : List (α × Value)} {values : List Value}
    (h : List.Forall₂ (fun pair v => ∃ first, other pair.1 first ∧ v = .tuple [first, pair.2]) found
      values) :
    ∃ pairs : List (Value × Value),
      List.Forall₂ (fun p q => other p.1 q.1 ∧ p.2 = q.2) found pairs ∧
        values = pairs.map fun (link, value) => .tuple [link, value] := by
  induction h with
  | nil => exact ⟨[], .nil, rfl⟩
  | cons hpair _ ih =>
    obtain ⟨first, hother, rfl⟩ := hpair
    obtain ⟨pairs, hpairs, rfl⟩ := ih
    exact ⟨(first, _) :: pairs, .cons ⟨hother, rfl⟩ hpairs, rfl⟩

theorem chain (hlink : Follows rules other link link') (hitem : Follows rules Eq item item')
    (hon : cursor.OnSymbol)
    (hmatched : (Parser.chain limit reason dangling item' link' cursor).outcome =
      .matched (first, found) rest) :
    ∃ text middle pairs, cursor.Reads text rest ∧
      List.Forall₂ (fun p q => other p.1 q.1 ∧ p.2 = q.2) found pairs ∧
      Derives rules item cursor.remainder (.matched first middle) ∧
      Derives rules (.many (.tuple [link, item]) 0) middle
        (.matched (.list (pairs.map fun (link, value) => .tuple [link, value])) rest.remainder) := by
  obtain ⟨middle, hfirst, hstar⟩ := Parser.chain_matched.mp hmatched
  obtain ⟨_, text, rfl, hreads, hderives⟩ := hitem.matched hon hfirst
  obtain ⟨_, text', ⟨values, rfl, hvalues⟩, hreads', hderives'⟩ :=
    ((linked hlink hitem).star limit).matched (hreads.onSymbol hon) hstar
  obtain ⟨pairs, hpairs, rfl⟩ := exists_pairs hvalues
  exact ⟨_, _, pairs, hreads.trans hreads', hpairs, hderives, hderives'⟩

end

theorem interpose {item' separator' : Parser Value} (hitem : Follows rules Eq item item')
    (hseparator : Follows rules Eq separator separator') (limit : Nat) :
    Follows rules Eq (.interpose item separator)
      (.list <$> Parser.interpose limit item' separator') := by
  refine ⟨fun hon hmatched => ?_, fun hon hfailed => ?_⟩
  · obtain ⟨_, hinner, rfl⟩ := Parser.map_matched.mp hmatched
    obtain ⟨first, found, hchain, rfl⟩ := Parser.interpose_matched.mp hinner
    obtain ⟨text, middle, pairs, hreads, hpairs, hderives, hderives'⟩ :=
      chain hseparator hitem hon hchain
    simp only [← Prod.ext_iff, List.forall₂_eq_eq_eq] at hpairs
    subst hpairs
    exact ⟨_, text, rfl, hreads, .interpose hderives hderives'⟩
  · obtain ⟨⟨cause, hcause⟩, -⟩ := Parser.interpose_failed.mp (Parser.map_failed.mp hfailed)
    exact .interpose_failed (hitem.failed hon hcause)

theorem chainl {operand' operator' : Parser Value} (hoperand : Follows rules Eq operand operand')
    (hoperator : Follows rules Eq operator operator') (fold : Value.Fold) (limit : Nat) :
    Follows rules Eq (.chainl operand operator fold)
      (Parser.chainl limit operand' (fold <$> operator')) := by
  have hcombine : Follows rules (fun combine link => combine = fold link) operator
      (fold <$> operator') := by
    refine ⟨fun hon hmatched => ?_, fun hon hfailed => ?_⟩
    · obtain ⟨_, hinner, rfl⟩ := Parser.map_matched.mp hmatched
      obtain ⟨v, text, rfl, hreads, hderives⟩ := hoperator.matched hon hinner
      exact ⟨_, text, rfl, hreads, hderives⟩
    · exact hoperator.failed hon (Parser.map_failed.mp hfailed)
  refine ⟨fun hon hmatched => ?_, fun hon hfailed => ?_⟩
  · obtain ⟨first, found, hchain, rfl⟩ := Parser.chainl_matched.mp hmatched
    obtain ⟨text, middle, pairs, hreads, hpairs, hderives, hderives'⟩ :=
      chain hcombine hoperand hon hchain
    refine ⟨_, text, ?_, hreads, .chainl hderives hderives'⟩
    refine List.rel_foldl ?_ rfl hpairs
    rintro joined _ rfl ⟨combine, right⟩ ⟨link, value⟩ ⟨hcombine, hright⟩
    simp only at hcombine hright ⊢
    rw [hcombine, hright]
  · obtain ⟨⟨cause, hcause⟩, -⟩ := Parser.chainl_failed.mp hfailed
    exact .chainl_failed (hoperand.failed hon hcause)

-- ---------------------------------------------------------------------------
-- Functions
-- ---------------------------------------------------------------------------

theorem map {parser : Parser Value} (h : Follows rules Eq body parser) (mapping : Value → Value) :
    Follows rules Eq (.map body mapping) (mapping <$> parser) := by
  refine ⟨fun hon hmatched => ?_, fun hon hfailed => ?_⟩
  · obtain ⟨_, hinner, rfl⟩ := Parser.map_matched.mp hmatched
    obtain ⟨_, text, rfl, hreads, hderives⟩ := h.matched hon hinner
    exact ⟨_, text, rfl, hreads, .map hderives⟩
  · exact .map_failed (h.failed hon (Parser.map_failed.mp hfailed))

theorem filter {parser : Parser Value} (h : Follows rules Eq body parser) (test : Value → Bool)
    (message : Text) :
    Follows rules Eq (.filter body test message) (parser.filter test message) := by
  refine ⟨fun hon hmatched => ?_, fun hon hfailed => ?_⟩
  · obtain ⟨hinner, htest⟩ := Parser.filter_matched.mp hmatched
    obtain ⟨_, text, rfl, hreads, hderives⟩ := h.matched hon hinner
    exact ⟨_, text, rfl, hreads, .filter hderives htest⟩
  · obtain hinner | ⟨⟨value, rest, hinner, htest⟩, -⟩ := Parser.filter_failed.mp hfailed
    · exact .filter_failed (h.failed hon hinner)
    · obtain ⟨_, text, rfl, hreads, hderives⟩ := h.matched hon hinner
      exact .filter_rejected hderives htest

end Follows

variable {rules : Rules} {grammar : Grammar} {limit : Nat}

theorem forall₂_follows {part : Grammar → Parser Value} {grammars : List Grammar}
    (h : ∀ grammar ∈ grammars, Follows rules Eq grammar (part grammar)) :
    List.Forall₂ (Follows rules Eq) grammars (grammars.map part) := by
  rw [List.forall₂_map_right_iff, List.forall₂_same]
  exact h

theorem assemble_follows {part : Grammar → Parser Value} (hsymbolic : grammar.Symbolic)
    (hparts : ∀ inner ∈ grammar.calls rules, Follows rules Eq inner (part inner)) :
    Follows rules Eq grammar (assemble rules limit part grammar) := by
  cases grammar with
  | character expected => exact .character expected
  | literal expected => exact .literal expected
  | pattern searched => exact .pattern searched
  | leaf function => exact hsymbolic.elim
  | tuple parts => exact .tuple (forall₂_follows hparts)
  | list parts => exact .list (forall₂_follows hparts)
  | choose alternatives => exact .firstOf (forall₂_follows hparts) 0
  | optional body => exact .optional (hparts body (by simp))
  | many body least => exact .many (hparts body (by simp)) limit least
  | interpose item separator =>
    exact .interpose (hparts item (by simp))
      (hparts separator (by simp)) limit
  | between opening closing inner =>
    exact .between (hparts opening (by simp)) (hparts closing (by simp))
      (hparts inner (by simp))
  | chainl operand operator fold =>
    exact .chainl (hparts operand (by simp))
      (hparts operator (by simp)) fold limit
  | map body mapping => exact .map (hparts body (by simp)) mapping
  | mapState body revision => exact hsymbolic.elim
  | filter body test message => exact .filter (hparts body (by simp)) test message
  | indexed body => exact hsymbolic.elim
  | rule name =>
    cases hbody : rules.lookup name with
    | none =>
      simp only [assemble, hbody]
      exact ⟨fun _ h => by simp at h, fun _ h => by simp at h⟩
    | some body =>
      have h := hparts body (by simp [hbody])
      simp only [assemble, hbody]
      refine ⟨fun hon hmatched => ?_, fun hon hfailed => .rule hbody (h.failed hon hfailed)⟩
      obtain ⟨v, text, hvalue, hreads, hderives⟩ := h.matched hon hmatched
      exact ⟨v, text, hvalue, hreads, .rule hbody hderives⟩

theorem run_follows (hsymbolic : grammar.Every rules Symbolic) (depth : Nat) :
    Follows rules Eq grammar (run rules depth grammar) := by
  induction depth generalizing grammar with
  | zero => exact ⟨fun _ h => by simp [run] at h, fun _ h => by simp [run] at h⟩
  | succ depth ih =>
    rw [run_succ]
    exact assemble_follows hsymbolic.self fun inner hinner => ih (hsymbolic.call hinner)

end Descent.Grammar
