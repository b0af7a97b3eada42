import Mathlib
import Descent.Proofs.Grammar.Depth
import Descent.Proofs.Grammar.Derivation

/-!
# Parsers come to what is derived

For grammars that look at nothing but symbols, the parser matches exactly when
a match is derived and fails exactly when failure is derived
(`parser_iff_derives`). What a run comes to is derived (`run_follows`); that
whatever is derived is come to goes by induction on the derivation, with one
lemma for each rule that has more than one premise. Each of these opens the
parser of a grammar by one level (`parser_outcome`).
-/

namespace Descent

theorem Parser.star_imp {parser : Parser α} {parser' : Parser β} {kind : Cursor.Kind}
    {value : α → β → Prop} (hkeeps : parser.Keeps kind)
    (hmatched : ∀ cursor found rest, kind.holds cursor →
      (parser cursor).outcome = .matched found rest →
      ∃ found', value found found' ∧ (parser' cursor).outcome = .matched found' rest)
    (hfailed : ∀ cursor failure, kind.holds cursor → (parser cursor).outcome = .failed failure →
      ∃ failure', (parser' cursor).outcome = .failed failure')
    (hcursor : kind.holds cursor) (h : (star limit parser cursor).outcome = .matched values rest) :
    ∃ values', List.Forall₂ value values values' ∧
      (star limit parser' cursor).outcome = .matched values' rest := by
  induction limit generalizing cursor values with
  | zero => simp [star] at h
  | succ limit ih =>
    obtain ⟨⟨failure, hfail⟩, rfl, rfl⟩ | ⟨first, middle, later, hfirst, hlater, rfl⟩ :=
      star_succ_matched.mp h
    · exact ⟨[], .nil, star_succ_matched.mpr (.inl ⟨hfailed _ _ hcursor hfail, rfl, rfl⟩)⟩
    · obtain ⟨first', hvalue, hfirst'⟩ := hmatched _ _ _ hcursor hfirst
      obtain ⟨later', hvalues, hlater'⟩ := ih (hkeeps hcursor hfirst) hlater
      exact ⟨first' :: later', .cons hvalue hvalues,
        star_succ_matched.mpr (.inr ⟨_, _, _, hfirst', hlater', rfl⟩)⟩

namespace Grammar

theorem Symbolic.plain {grammar : Grammar} (h : grammar.Symbolic) : grammar.Plain := by
  cases grammar <;> trivial

theorem Every.stays {grammar : Grammar} (h : grammar.Every rules Symbolic) :
    grammar.Every rules Stays := h.imp fun _ h => h.plain.stays

/-- Wherever the text is left of the source, the parser of the grammar comes to the result. -/
def Attains (rules : Rules) (source : Text) (grammar : Grammar) (text : Text) : Result → Prop
  | .matched value left => ∀ cursor, Cursor.On source cursor → cursor.remainder = text →
      ∃ rest, (grammar.parser rules cursor).outcome = .matched value rest ∧
        Cursor.On source rest ∧ rest.remainder = left
  | .failed => ∀ cursor, Cursor.On source cursor → cursor.remainder = text →
      ∃ failure, (grammar.parser rules cursor).outcome = .failed failure

variable {rules : Rules} {source text middle : Text} {grammar : Grammar} {result : Result}

theorem parser_level (h : grammar.Every rules Symbolic) (hon : Cursor.On source cursor) :
    (grammar.parser rules cursor).outcome =
      (assemble rules (source.length + 1) (parser rules) grammar cursor).outcome :=
  parser_outcome h.stays hon.onSymbol (by rw [hon.source]; omega)

theorem parser_on (h : grammar.Every rules Symbolic) (hon : Cursor.On source cursor)
    (hmatched : (grammar.parser rules cursor).outcome = .matched value rest) :
    Cursor.On source rest :=
  run_keeps h.stays hon hmatched

namespace Attains

theorem of_matched (hsymbolic : grammar.Every rules Symbolic)
    (h : ∀ cursor, Cursor.On source cursor → cursor.remainder = text →
      ∃ rest, (grammar.parser rules cursor).outcome = .matched value rest ∧ rest.remainder = left) :
    Attains rules source grammar text (.matched value left) := by
  intro cursor hon hremainder
  obtain ⟨rest, hmatched, hleft⟩ := h cursor hon hremainder
  exact ⟨rest, hmatched, parser_on hsymbolic hon hmatched, hleft⟩

-- ---------------------------------------------------------------------------
-- Primitives
-- ---------------------------------------------------------------------------

theorem character (hsymbolic : Every rules Symbolic (.character symbol)) :
    Attains rules source (.character symbol) (symbol :: left) (.matched (.char symbol) left) := by
  refine of_matched hsymbolic fun cursor hon hremainder => ⟨cursor.advance 1, ?_, ?_⟩
  · have hcurrent : cursor.current = some symbol := by
      rw [Cursor.current, hremainder, List.head?_cons]
    rw [parser_level hsymbolic hon]
    exact Parser.map_matched.mpr ⟨_, Parser.character_matched.mpr ⟨hcurrent, rfl, rfl⟩, rfl⟩
  · rw [Cursor.remainder_advance hon.onSymbol, hremainder, List.drop_succ_cons, List.drop_zero]

theorem character_failed (hsymbolic : Every rules Symbolic (.character symbol))
    (h : text.head? ≠ some symbol) : Attains rules source (.character symbol) text .failed := by
  intro cursor hon hremainder
  have hcurrent : cursor.current ≠ some symbol := by rwa [Cursor.current, hremainder]
  rw [parser_level hsymbolic hon]
  exact ⟨_, Parser.map_failed.mpr (Parser.character_failed.mpr ⟨hcurrent, rfl⟩)⟩

theorem literal (hsymbolic : Every rules Symbolic (.literal expected)) :
    Attains rules source (.literal expected) (expected ++ left) (.matched (.text expected) left) := by
  refine of_matched hsymbolic fun cursor hon hremainder =>
    ⟨cursor.skipBytes expected.byteSize, ?_, ?_⟩
  · have hstarts : expected <+: cursor.remainder := ⟨left, hremainder.symm⟩
    rw [parser_level hsymbolic hon]
    exact Parser.map_matched.mpr ⟨_, Parser.literal_matched.mpr ⟨hstarts, rfl, rfl⟩, rfl⟩
  · have hreads := Cursor.reads_skipBytes hon.onSymbol hremainder
    exact (List.append_cancel_left (hremainder.symm.trans hreads.remainder)).symm

theorem literal_failed (hsymbolic : Every rules Symbolic (.literal expected))
    (h : ¬expected <+: text) : Attains rules source (.literal expected) text .failed := by
  intro cursor hon hremainder
  rw [parser_level hsymbolic hon]
  exact ⟨_, Parser.map_failed.mpr (Parser.literal_failed.mpr ⟨hremainder ▸ h, rfl⟩)⟩

theorem pattern (hsymbolic : Every rules Symbolic (.pattern searched))
    (h : searched.matchStart? text = some (found, length)) :
    Attains rules source (.pattern searched) text
      (.matched (.captures found) (text.drop length)) := by
  refine of_matched hsymbolic fun cursor hon hremainder => ?_
  subst hremainder
  refine ⟨cursor.advance length, ?_, Cursor.remainder_advance hon.onSymbol length⟩
  rw [parser_level hsymbolic hon]
  exact Parser.map_matched.mpr ⟨_, Parser.pattern_matched.mpr ⟨length, h, rfl⟩, rfl⟩

theorem pattern_failed (hsymbolic : Every rules Symbolic (.pattern searched))
    (h : searched.matchStart? text = none) :
    Attains rules source (.pattern searched) text .failed := by
  intro cursor hon hremainder
  rw [parser_level hsymbolic hon]
  exact ⟨_, Parser.map_failed.mpr (Parser.pattern_failed.mpr ⟨hremainder ▸ h, rfl⟩)⟩

-- ---------------------------------------------------------------------------
-- Sequences
-- ---------------------------------------------------------------------------

section
variable {part : Grammar} {parts later : List Grammar}

theorem list_matched_iff (hsymbolic : Every rules Symbolic (.list parts))
    (hon : Cursor.On source cursor) :
    ((Grammar.list parts).parser rules cursor).outcome = .matched (.list values) rest ↔
      Parser.Threads (parts.map (parser rules)) cursor values rest := by
  rw [parser_level hsymbolic hon]
  simp [assemble, Parser.map_matched, Parser.sequence_matched]

theorem list_failed_iff (hsymbolic : Every rules Symbolic (.list parts))
    (hon : Cursor.On source cursor) :
    (∃ failure, ((Grammar.list parts).parser rules cursor).outcome = .failed failure) ↔
      ∃ failure, (Parser.each (parts.map (parser rules)) cursor).outcome = .failed failure := by
  rw [parser_level hsymbolic hon]
  simp only [assemble, Parser.map_failed, Parser.sequence_failed]
  constructor
  · rintro ⟨_, cause, hcause, -⟩
    exact ⟨cause, hcause⟩
  · rintro ⟨cause, hcause⟩
    exact ⟨_, cause, hcause, rfl⟩

theorem list_nil (hsymbolic : Every rules Symbolic (.list [])) :
    Attains rules source (.list []) text (.matched (.list []) text) := by
  refine of_matched hsymbolic fun cursor hon hremainder => ⟨cursor, ?_, hremainder⟩
  exact (list_matched_iff hsymbolic hon).mpr .nil

theorem later_symbolic (hsymbolic : Every rules Symbolic (.list (part :: later))) :
    Every rules Symbolic (.list later) :=
  every_of_calls trivial fun _ hinner => hsymbolic.call (List.mem_cons_of_mem _ hinner)

theorem list_cons (hsymbolic : Every rules Symbolic (.list (part :: later)))
    (hpart : Attains rules source part text (.matched value middle))
    (hlater : Attains rules source (.list later) middle (.matched (.list values) left)) :
    Attains rules source (.list (part :: later)) text (.matched (.list (value :: values)) left) := by
  refine of_matched hsymbolic fun cursor hon hremainder => ?_
  obtain ⟨stop, h, hstop, hmiddle⟩ := hpart cursor hon hremainder
  obtain ⟨rest, h', -, hleft⟩ := hlater stop hstop hmiddle
  have hthreads := (list_matched_iff (later_symbolic hsymbolic) hstop).mp h'
  exact ⟨rest, (list_matched_iff hsymbolic hon).mpr (.cons h hthreads), hleft⟩

theorem list_first_failed (hsymbolic : Every rules Symbolic (.list (part :: later)))
    (hpart : Attains rules source part text .failed) :
    Attains rules source (.list (part :: later)) text .failed := by
  intro cursor hon hremainder
  obtain ⟨failure, h⟩ := hpart cursor hon hremainder
  exact (list_failed_iff hsymbolic hon).mpr ⟨failure, Parser.each_cons_failed.mpr (.inl h)⟩

theorem list_later_failed (hsymbolic : Every rules Symbolic (.list (part :: later)))
    (hpart : Attains rules source part text (.matched value middle))
    (hlater : Attains rules source (.list later) middle .failed) :
    Attains rules source (.list (part :: later)) text .failed := by
  intro cursor hon hremainder
  obtain ⟨stop, h, hstop, hmiddle⟩ := hpart cursor hon hremainder
  have hfailed := hlater stop hstop hmiddle
  obtain ⟨failure, h'⟩ := (list_failed_iff (later_symbolic hsymbolic) hstop).mp hfailed
  exact (list_failed_iff hsymbolic hon).mpr
    ⟨failure, Parser.each_cons_failed.mpr (.inr ⟨value, stop, h, h'⟩)⟩

theorem list_symbolic (hsymbolic : Every rules Symbolic grammar)
    (h : ∀ inner ∈ parts, inner ∈ grammar.calls rules) : Every rules Symbolic (.list parts) :=
  every_of_calls trivial fun inner hinner => hsymbolic.call (h inner hinner)

theorem tuple (hsymbolic : Every rules Symbolic (.tuple parts))
    (h : Attains rules source (.list parts) text (.matched (.list values) left)) :
    Attains rules source (.tuple parts) text (.matched (.tuple values) left) := by
  refine of_matched hsymbolic fun cursor hon hremainder => ?_
  obtain ⟨rest, h, -, hleft⟩ := h cursor hon hremainder
  have hthreads := (list_matched_iff (list_symbolic hsymbolic fun _ => id) hon).mp h
  rw [parser_level hsymbolic hon]
  exact ⟨rest, Parser.map_matched.mpr ⟨_, Parser.sequence_matched.mpr hthreads, rfl⟩, hleft⟩

theorem tuple_failed (hsymbolic : Every rules Symbolic (.tuple parts))
    (h : Attains rules source (.list parts) text .failed) :
    Attains rules source (.tuple parts) text .failed := by
  intro cursor hon hremainder
  obtain ⟨cause, h⟩ := (list_failed_iff (list_symbolic hsymbolic fun _ => id) hon).mp
    (h cursor hon hremainder)
  rw [parser_level hsymbolic hon]
  exact ⟨_, Parser.map_failed.mpr (Parser.sequence_failed.mpr ⟨cause, h, rfl⟩)⟩

end

section
variable {opening inner closing : Grammar}

theorem between_symbolic (hsymbolic : Every rules Symbolic (.between opening closing inner)) :
    Every rules Symbolic (.list [opening, inner, closing]) :=
  list_symbolic hsymbolic fun _ h => by
    simp only [calls, parts, List.mem_cons] at h ⊢
    tauto

theorem between (hsymbolic : Every rules Symbolic (.between opening closing inner))
    (h : Attains rules source (.list [opening, inner, closing]) text
      (.matched (.list [first, value, last]) left)) :
    Attains rules source (.between opening closing inner) text (.matched value left) := by
  refine of_matched hsymbolic fun cursor hon hremainder => ?_
  obtain ⟨rest, h, -, hleft⟩ := h cursor hon hremainder
  obtain _ | ⟨hfirst, _ | ⟨hsecond, _ | ⟨hthird, _ | _⟩⟩⟩ :=
    (list_matched_iff (between_symbolic hsymbolic) hon).mp h
  rw [parser_level hsymbolic hon]
  exact ⟨rest, Parser.between_matched.mpr ⟨_, _, _, _, hfirst, hsecond, hthird⟩, hleft⟩

theorem between_failed (hsymbolic : Every rules Symbolic (.between opening closing inner))
    (h : Attains rules source (.list [opening, inner, closing]) text .failed) :
    Attains rules source (.between opening closing inner) text .failed := by
  intro cursor hon hremainder
  obtain ⟨cause, h⟩ := (list_failed_iff (between_symbolic hsymbolic) hon).mp
    (h cursor hon hremainder)
  simp only [List.map_cons, List.map_nil, Parser.each_cons_failed, Parser.each_nil_outcome,
    reduceCtorEq, and_false, exists_false, or_false] at h
  rw [parser_level hsymbolic hon]
  exact ⟨_, Parser.between_failed.mpr ⟨cause, h, rfl⟩⟩

end

-- ---------------------------------------------------------------------------
-- Choices
-- ---------------------------------------------------------------------------

section
variable {alternative : Grammar} {alternatives : List Grammar}

theorem choose_nil (hsymbolic : Every rules Symbolic (.choose [])) :
    Attains rules source (.choose []) text .failed := by
  intro cursor hon _
  rw [parser_level hsymbolic hon]
  exact ⟨_, Parser.choose_failed.mpr ⟨by simp [Parser.AllFail], rfl⟩⟩

theorem choose_first (hsymbolic : Every rules Symbolic (.choose (alternative :: alternatives)))
    (h : Attains rules source alternative text (.matched value left)) :
    Attains rules source (.choose (alternative :: alternatives)) text (.matched value left) := by
  refine of_matched hsymbolic fun cursor hon hremainder => ?_
  obtain ⟨rest, h, -, hleft⟩ := h cursor hon hremainder
  rw [parser_level hsymbolic hon]
  refine ⟨rest, Parser.choose_matched.mpr ?_, hleft⟩
  exact ⟨[], _, alternatives.map (parser rules), rfl, by simp [Parser.AllFail], h⟩

theorem choose_later (hsymbolic : Every rules Symbolic (.choose (alternative :: alternatives)))
    (hfirst : Attains rules source alternative text .failed)
    (hlater : Attains rules source (.choose alternatives) text result) :
    Attains rules source (.choose (alternative :: alternatives)) text result := by
  have hsymbolic' : Every rules Symbolic (.choose alternatives) :=
    every_of_calls trivial fun _ hinner => hsymbolic.call (List.mem_cons_of_mem _ hinner)
  cases result with
  | matched value left =>
    refine of_matched hsymbolic fun cursor hon hremainder => ?_
    obtain ⟨rest, h, -, hleft⟩ := hlater cursor hon hremainder
    rw [parser_level hsymbolic' hon] at h
    obtain ⟨before, found, after, heq, hbefore, h⟩ := Parser.choose_matched.mp h
    rw [parser_level hsymbolic hon]
    refine ⟨rest, Parser.choose_matched.mpr
      ⟨alternative.parser rules :: before, found, after, ?_, ?_, h⟩, hleft⟩
    · rw [List.map_cons, heq, List.cons_append]
    · exact List.forall_mem_cons.mpr ⟨hfirst cursor hon hremainder, hbefore⟩
  | failed =>
    intro cursor hon hremainder
    obtain ⟨failure, h⟩ := hlater cursor hon hremainder
    rw [parser_level hsymbolic' hon] at h
    have hall := (Parser.choose_failed.mp h).1
    rw [parser_level hsymbolic hon]
    refine ⟨_, Parser.choose_failed.mpr ⟨?_, rfl⟩⟩
    exact List.forall_mem_cons.mpr ⟨hfirst cursor hon hremainder, hall⟩

end

section
variable {body : Grammar}

theorem optional_some (hsymbolic : Every rules Symbolic (.optional body))
    (h : Attains rules source body text (.matched value left)) :
    Attains rules source (.optional body) text (.matched (.some value) left) := by
  refine of_matched hsymbolic fun cursor hon hremainder => ?_
  obtain ⟨rest, h, -, hleft⟩ := h cursor hon hremainder
  rw [parser_level hsymbolic hon]
  exact ⟨rest, Parser.map_matched.mpr ⟨_, Parser.optional_some.mpr h, rfl⟩, hleft⟩

theorem optional_none (hsymbolic : Every rules Symbolic (.optional body))
    (h : Attains rules source body text .failed) :
    Attains rules source (.optional body) text (.matched .none text) := by
  refine of_matched hsymbolic fun cursor hon hremainder => ?_
  have h := h cursor hon hremainder
  rw [parser_level hsymbolic hon]
  exact ⟨cursor, Parser.map_matched.mpr ⟨_, Parser.optional_none.mpr ⟨h, rfl⟩, rfl⟩, hremainder⟩

-- ---------------------------------------------------------------------------
-- Repetitions
-- ---------------------------------------------------------------------------

theorem many_matched_iff (hsymbolic : Every rules Symbolic (.many body 0))
    (hon : Cursor.On source cursor) (hlimit : source.length < limit) :
    ((Grammar.many body 0).parser rules cursor).outcome = .matched (.list values) rest ↔
      (Parser.star limit (body.parser rules) cursor).outcome = .matched values rest := by
  rw [parser_outcome hsymbolic.stays hon.onSymbol (hon.source ▸ hlimit)]
  simp [assemble, Parser.map_matched, Parser.many_matched]

theorem many_nil (hsymbolic : Every rules Symbolic (.many body 0))
    (h : Attains rules source body text .failed) :
    Attains rules source (.many body 0) text (.matched (.list []) text) := by
  refine of_matched hsymbolic fun cursor hon hremainder => ⟨cursor, ?_, hremainder⟩
  rw [many_matched_iff hsymbolic hon (Nat.lt_succ_self _)]
  exact Parser.star_succ_matched.mpr (.inl ⟨h cursor hon hremainder, rfl, rfl⟩)

theorem many_cons (hsymbolic : Every rules Symbolic (.many body 0))
    (hbody : Attains rules source body text (.matched value middle))
    (hlater : Attains rules source (.many body 0) middle (.matched (.list values) left)) :
    Attains rules source (.many body 0) text (.matched (.list (value :: values)) left) := by
  refine of_matched hsymbolic fun cursor hon hremainder => ?_
  obtain ⟨stop, h, hstop, hmiddle⟩ := hbody cursor hon hremainder
  obtain ⟨rest, h', -, hleft⟩ := hlater stop hstop hmiddle
  -- one round more than behind the first match, so the limit is one higher
  have hstar := (many_matched_iff hsymbolic hstop (Nat.lt_succ_self _)).mp h'
  have hlimit : source.length < source.length + 1 + 1 := by omega
  exact ⟨rest, (many_matched_iff hsymbolic hon hlimit).mpr
    (Parser.star_succ_matched.mpr (.inr ⟨_, _, _, h, hstar, rfl⟩)), hleft⟩

theorem many_zero_symbolic (hsymbolic : Every rules Symbolic (.many body least)) :
    Every rules Symbolic (.many body 0) := every_of_calls trivial fun _ => hsymbolic.call

theorem many_enough (hsymbolic : Every rules Symbolic (.many body least))
    (h : Attains rules source (.many body 0) text (.matched (.list values) left))
    (hleast : least ≤ values.length) :
    Attains rules source (.many body least) text (.matched (.list values) left) := by
  refine of_matched hsymbolic fun cursor hon hremainder => ?_
  obtain ⟨rest, h, -, hleft⟩ := h cursor hon hremainder
  have hstar := (many_matched_iff (many_zero_symbolic hsymbolic) hon (Nat.lt_succ_self _)).mp h
  rw [parser_level hsymbolic hon]
  exact ⟨rest, Parser.map_matched.mpr ⟨_, Parser.many_matched.mpr ⟨hstar, hleast⟩, rfl⟩, hleft⟩

theorem many_few (hsymbolic : Every rules Symbolic (.many body least))
    (h : Attains rules source (.many body 0) text (.matched (.list values) left))
    (hfew : values.length < least) : Attains rules source (.many body least) text .failed := by
  intro cursor hon hremainder
  obtain ⟨rest, h, -, -⟩ := h cursor hon hremainder
  have hstar := (many_matched_iff (many_zero_symbolic hsymbolic) hon (Nat.lt_succ_self _)).mp h
  rw [parser_level hsymbolic hon]
  exact ⟨_, Parser.map_failed.mpr (Parser.many_failed.mpr ⟨values, rest, hstar, hfew, rfl⟩)⟩

end

-- ---------------------------------------------------------------------------
-- Chains
-- ---------------------------------------------------------------------------

section
variable {item link : Grammar} {link' : Parser α} {f : Value → α} {pairs : List (Value × Value)}
  {dangling : Nat → Event}
  (hmatched : ∀ cursor v rest, (link.parser rules cursor).outcome = .matched v rest →
    (link' cursor).outcome = .matched (f v) rest)
  (hfailed : ∀ cursor failure, (link.parser rules cursor).outcome = .failed failure →
    (link' cursor).outcome = .failed failure)

include hmatched hfailed

omit hfailed in
theorem linked_of_pair (hsymbolic : Every rules Symbolic (.tuple [link, item]))
    (hon : Cursor.On source cursor)
    (h : ((Grammar.tuple [link, item]).parser rules cursor).outcome = .matched value rest) :
    ∃ first second, value = .tuple [first, second] ∧
      (Parser.linked dangling link' (item.parser rules) cursor).outcome =
        .matched (f first, second) rest := by
  rw [parser_level hsymbolic hon] at h
  obtain ⟨values, hsequence, rfl⟩ := Parser.map_matched.mp h
  obtain _ | ⟨hlink, _ | ⟨hitem, _ | _⟩⟩ := Parser.sequence_matched.mp hsequence
  exact ⟨_, _, rfl, Parser.linked_matched.mpr ⟨_, hmatched _ _ _ hlink, hitem⟩⟩

theorem linked_of_pair_failed {failure : Failure}
    (hsymbolic : Every rules Symbolic (.tuple [link, item]))
    (hon : Cursor.On source cursor)
    (h : ((Grammar.tuple [link, item]).parser rules cursor).outcome = .failed failure) :
    ∃ cause, (Parser.linked dangling link' (item.parser rules) cursor).outcome =
      .failed cause := by
  rw [parser_level hsymbolic hon] at h
  obtain ⟨cause, h, -⟩ := Parser.sequence_failed.mp (Parser.map_failed.mp h)
  simp only [List.map_cons, List.map_nil, Parser.each_cons_failed, Parser.each_nil_outcome,
    reduceCtorEq, and_false, exists_false, or_false] at h
  refine ⟨cause, Parser.linked_failed.mpr (h.imp (hfailed _ _) ?_)⟩
  rintro ⟨v, middle, hlink, hitem⟩
  exact ⟨_, middle, hmatched _ _ _ hlink, hitem⟩

theorem star_linked (hsymbolic : Every rules Symbolic (.many (.tuple [link, item]) 0))
    (hon : Cursor.On source cursor)
    (h : ((Grammar.many (.tuple [link, item]) 0).parser rules cursor).outcome =
      .matched (.list (pairs.map fun (link, value) => .tuple [link, value])) rest) :
    (Parser.star (source.length + 1) (Parser.linked dangling link' (item.parser rules))
      cursor).outcome = .matched (pairs.map fun (link, value) => (f link, value)) rest := by
  have hpair : Every rules Symbolic (.tuple [link, item]) := hsymbolic.call (by simp)
  have hkeeps : Parser.Keeps (.on source) ((Grammar.tuple [link, item]).parser rules) :=
    fun _ _ _ hon h => parser_on hpair hon h
  -- the two repetitions go along round by round; their values are the same pairs in two forms
  let alike (v : Value) (pair : α × Value) : Prop :=
    ∃ first second, v = .tuple [first, second] ∧ pair = (f first, second)
  have hround : ∀ cursor v rest, Cursor.On source cursor →
      ((Grammar.tuple [link, item]).parser rules cursor).outcome = .matched v rest →
      ∃ pair, alike v pair ∧
        (Parser.linked dangling link' (item.parser rules) cursor).outcome = .matched pair rest := by
    intro cursor v rest hon h
    obtain ⟨first, second, rfl, hlinked⟩ := linked_of_pair hmatched hpair hon h
    exact ⟨_, ⟨first, second, rfl, rfl⟩, hlinked⟩
  have hstop : ∀ cursor failure, Cursor.On source cursor →
      ((Grammar.tuple [link, item]).parser rules cursor).outcome = .failed failure →
      ∃ cause, (Parser.linked dangling link' (item.parser rules) cursor).outcome = .failed cause :=
    fun _ _ hon h => linked_of_pair_failed hmatched hfailed hpair hon h
  rw [many_matched_iff hsymbolic hon (Nat.lt_succ_self _)] at h
  obtain ⟨found, hfound, hstar⟩ := Parser.star_imp hkeeps hround hstop hon h
  have hpairs : pairs.map (fun (link, value) => (f link, value)) = found := by
    rw [← List.forall₂_eq_eq_eq, List.forall₂_map_left_iff]
    refine (List.forall₂_map_left_iff.mp hfound).imp ?_
    rintro ⟨first, second⟩ _ ⟨_, _, heq, rfl⟩
    cases heq
    rfl
  rwa [hpairs]

theorem chain (hsymbolic : Every rules Symbolic (.many (.tuple [link, item]) 0))
    (hitem : Attains rules source item text (.matched first middle))
    (hpairs : Attains rules source (.many (.tuple [link, item]) 0) middle
      (.matched (.list (pairs.map fun (link, value) => .tuple [link, value])) left))
    (hon : Cursor.On source cursor) (hremainder : cursor.remainder = text) :
    ∃ rest, (Parser.chain (source.length + 1) reason dangling (item.parser rules) link'
      cursor).outcome = .matched (first, pairs.map fun (link, value) => (f link, value)) rest ∧
        rest.remainder = left := by
  obtain ⟨stop, h, hstop, hmiddle⟩ := hitem cursor hon hremainder
  obtain ⟨rest, h', -, hleft⟩ := hpairs stop hstop hmiddle
  exact ⟨rest, Parser.chain_matched.mpr
    ⟨stop, h, star_linked hmatched hfailed hsymbolic hstop h'⟩, hleft⟩

omit hmatched hfailed in
theorem pairs_symbolic (hsymbolic : Every rules Symbolic grammar)
    (hlink : link ∈ grammar.calls rules) (hitem : item ∈ grammar.calls rules) :
    Every rules Symbolic (.many (.tuple [link, item]) 0) := by
  have hpair : Every rules Symbolic (.tuple [link, item]) :=
    every_of_calls trivial (by simp [hsymbolic.call hlink, hsymbolic.call hitem])
  exact every_of_calls trivial (by simp [hpair])

end

theorem interpose {item separator : Grammar} {pairs : List (Value × Value)}
    (hsymbolic : Every rules Symbolic (.interpose item separator))
    (hitem : Attains rules source item text (.matched first middle))
    (hpairs : Attains rules source (.many (.tuple [separator, item]) 0) middle
      (.matched (.list (pairs.map fun (link, value) => .tuple [link, value])) left)) :
    Attains rules source (.interpose item separator) text
      (.matched (.list (first :: pairs.flatMap fun (link, value) => [link, value])) left) := by
  refine of_matched hsymbolic fun cursor hon hremainder => ?_
  have hsymbolic' : Every rules Symbolic (.many (.tuple [separator, item]) 0) :=
    pairs_symbolic hsymbolic (by simp) (by simp)
  obtain ⟨rest, hchain, hleft⟩ := chain (f := id) (fun _ _ _ => id) (fun _ _ => id) hsymbolic'
    hitem hpairs hon hremainder
  rw [parser_level hsymbolic hon]
  refine ⟨rest, Parser.map_matched.mpr ⟨_, Parser.interpose_matched.mpr ?_, rfl⟩, hleft⟩
  exact ⟨first, pairs, by simpa using hchain, rfl⟩

theorem interpose_failed {item separator : Grammar}
    (hsymbolic : Every rules Symbolic (.interpose item separator))
    (hitem : Attains rules source item text .failed) :
    Attains rules source (.interpose item separator) text .failed := by
  intro cursor hon hremainder
  have hcause := hitem cursor hon hremainder
  rw [parser_level hsymbolic hon]
  exact ⟨_, Parser.map_failed.mpr (Parser.interpose_failed.mpr ⟨hcause, rfl⟩)⟩

theorem chainl {operand operator : Grammar} {fold : Value.Fold} {pairs : List (Value × Value)}
    (hsymbolic : Every rules Symbolic (.chainl operand operator fold))
    (hoperand : Attains rules source operand text (.matched first middle))
    (hpairs : Attains rules source (.many (.tuple [operator, operand]) 0) middle
      (.matched (.list (pairs.map fun (link, value) => .tuple [link, value])) left)) :
    Attains rules source (.chainl operand operator fold) text
      (.matched (pairs.foldl (fun joined (link, value) => fold link joined value) first) left) := by
  refine of_matched hsymbolic fun cursor hon hremainder => ?_
  have hsymbolic' : Every rules Symbolic (.many (.tuple [operator, operand]) 0) :=
    pairs_symbolic hsymbolic (by simp) (by simp)
  have hmatched : ∀ cursor v rest, (operator.parser rules cursor).outcome = .matched v rest →
      ((fold <$> operator.parser rules) cursor).outcome = .matched (fold v) rest :=
    fun _ v _ h => Parser.map_matched.mpr ⟨v, h, rfl⟩
  obtain ⟨rest, hchain, hleft⟩ := chain hmatched (fun _ _ h => Parser.map_failed.mpr h) hsymbolic'
    hoperand hpairs hon hremainder
  rw [parser_level hsymbolic hon]
  refine ⟨rest, Parser.chainl_matched.mpr ⟨first, _, hchain, ?_⟩, hleft⟩
  rw [List.foldl_map]

theorem chainl_failed {operand operator : Grammar}
    (hsymbolic : Every rules Symbolic (.chainl operand operator fold))
    (hoperand : Attains rules source operand text .failed) :
    Attains rules source (.chainl operand operator fold) text .failed := by
  intro cursor hon hremainder
  have hcause := hoperand cursor hon hremainder
  rw [parser_level hsymbolic hon]
  simp only [assemble, Parser.chainl_failed]
  exact ⟨_, hcause, rfl⟩

-- ---------------------------------------------------------------------------
-- Functions and rules
-- ---------------------------------------------------------------------------

section
variable {body : Grammar} {mapping : Value → Value} {test : Value → Bool} {message : Text}

theorem map (hsymbolic : Every rules Symbolic (.map body mapping))
    (h : Attains rules source body text (.matched value left)) :
    Attains rules source (.map body mapping) text (.matched (mapping value) left) := by
  refine of_matched hsymbolic fun cursor hon hremainder => ?_
  obtain ⟨rest, h, -, hleft⟩ := h cursor hon hremainder
  rw [parser_level hsymbolic hon]
  exact ⟨rest, Parser.map_matched.mpr ⟨value, h, rfl⟩, hleft⟩

theorem map_failed (hsymbolic : Every rules Symbolic (.map body mapping))
    (h : Attains rules source body text .failed) :
    Attains rules source (.map body mapping) text .failed := by
  intro cursor hon hremainder
  obtain ⟨failure, h⟩ := h cursor hon hremainder
  rw [parser_level hsymbolic hon]
  exact ⟨failure, Parser.map_failed.mpr h⟩

theorem filter (hsymbolic : Every rules Symbolic (.filter body test message))
    (h : Attains rules source body text (.matched value left)) (htest : test value = true) :
    Attains rules source (.filter body test message) text (.matched value left) := by
  refine of_matched hsymbolic fun cursor hon hremainder => ?_
  obtain ⟨rest, h, -, hleft⟩ := h cursor hon hremainder
  rw [parser_level hsymbolic hon]
  exact ⟨rest, Parser.filter_matched.mpr ⟨h, htest⟩, hleft⟩

theorem filter_rejected (hsymbolic : Every rules Symbolic (.filter body test message))
    (h : Attains rules source body text (.matched value left)) (htest : test value = false) :
    Attains rules source (.filter body test message) text .failed := by
  intro cursor hon hremainder
  obtain ⟨rest, h, -, -⟩ := h cursor hon hremainder
  rw [parser_level hsymbolic hon]
  exact ⟨_, Parser.filter_failed.mpr (.inr ⟨⟨value, rest, h, htest⟩, rfl⟩)⟩

theorem filter_failed (hsymbolic : Every rules Symbolic (.filter body test message))
    (h : Attains rules source body text .failed) :
    Attains rules source (.filter body test message) text .failed := by
  intro cursor hon hremainder
  obtain ⟨failure, h⟩ := h cursor hon hremainder
  rw [parser_level hsymbolic hon]
  exact ⟨failure, Parser.filter_failed.mpr (.inl h)⟩

theorem rule (hsymbolic : Every rules Symbolic (.rule name))
    (hbody : rules.lookup name = some body) (h : Attains rules source body text result) :
    Attains rules source (.rule name) text result := by
  have hlevel : ∀ cursor, Cursor.On source cursor →
      ((Grammar.rule name).parser rules cursor).outcome = (body.parser rules cursor).outcome := by
    intro cursor hon
    rw [parser_level hsymbolic hon]
    simp only [assemble, hbody]
  cases result with
  | matched value left =>
    intro cursor hon hremainder
    rw [hlevel cursor hon]
    exact h cursor hon hremainder
  | failed =>
    intro cursor hon hremainder
    rw [hlevel cursor hon]
    exact h cursor hon hremainder

end

end Attains

theorem Derives.attains (h : Derives rules grammar text result)
    (hsymbolic : grammar.Every rules Symbolic) : Attains rules source grammar text result := by
  induction h with
  | character => exact .character hsymbolic
  | character_failed h => exact .character_failed hsymbolic h
  | literal => exact .literal hsymbolic
  | literal_failed h => exact .literal_failed hsymbolic h
  | pattern h => exact .pattern hsymbolic h
  | pattern_failed h => exact .pattern_failed hsymbolic h
  | list_nil => exact .list_nil hsymbolic
  | list_cons _ _ ih ih' =>
    exact .list_cons hsymbolic (ih (hsymbolic.call List.mem_cons_self))
      (ih' (Attains.later_symbolic hsymbolic))
  | list_first_failed _ ih =>
    exact .list_first_failed hsymbolic (ih (hsymbolic.call List.mem_cons_self))
  | list_later_failed _ _ ih ih' =>
    exact .list_later_failed hsymbolic (ih (hsymbolic.call List.mem_cons_self))
      (ih' (Attains.later_symbolic hsymbolic))
  | tuple _ ih => exact .tuple hsymbolic (ih (Attains.list_symbolic hsymbolic fun _ => id))
  | tuple_failed _ ih =>
    exact .tuple_failed hsymbolic (ih (Attains.list_symbolic hsymbolic fun _ => id))
  | between _ ih => exact .between hsymbolic (ih (Attains.between_symbolic hsymbolic))
  | between_failed _ ih => exact .between_failed hsymbolic (ih (Attains.between_symbolic hsymbolic))
  | choose_nil => exact .choose_nil hsymbolic
  | choose_first _ ih => exact .choose_first hsymbolic (ih (hsymbolic.call List.mem_cons_self))
  | choose_later _ _ ih ih' =>
    refine .choose_later hsymbolic (ih (hsymbolic.call List.mem_cons_self)) (ih' ?_)
    exact every_of_calls trivial fun _ hinner => hsymbolic.call (List.mem_cons_of_mem _ hinner)
  | optional_some _ ih => exact .optional_some hsymbolic (ih (hsymbolic.call List.mem_cons_self))
  | optional_none _ ih => exact .optional_none hsymbolic (ih (hsymbolic.call List.mem_cons_self))
  | many_nil _ ih => exact .many_nil hsymbolic (ih (hsymbolic.call List.mem_cons_self))
  | many_cons _ _ ih ih' =>
    exact .many_cons hsymbolic (ih (hsymbolic.call List.mem_cons_self)) (ih' hsymbolic)
  | many_enough _ hleast ih =>
    exact .many_enough hsymbolic (ih (Attains.many_zero_symbolic hsymbolic)) hleast
  | many_few _ hfew ih =>
    exact .many_few hsymbolic (ih (Attains.many_zero_symbolic hsymbolic)) hfew
  | interpose _ _ ih ih' =>
    refine .interpose hsymbolic (ih (hsymbolic.call (by simp))) (ih' ?_)
    exact Attains.pairs_symbolic hsymbolic (by simp) (by simp)
  | interpose_failed _ ih =>
    exact .interpose_failed hsymbolic (ih (hsymbolic.call (by simp)))
  | chainl _ _ ih ih' =>
    refine .chainl hsymbolic (ih (hsymbolic.call (by simp))) (ih' ?_)
    exact Attains.pairs_symbolic hsymbolic (by simp) (by simp)
  | chainl_failed _ ih =>
    exact .chainl_failed hsymbolic (ih (hsymbolic.call (by simp)))
  | map _ ih => exact .map hsymbolic (ih (hsymbolic.call List.mem_cons_self))
  | map_failed _ ih => exact .map_failed hsymbolic (ih (hsymbolic.call List.mem_cons_self))
  | filter _ htest ih => exact .filter hsymbolic (ih (hsymbolic.call List.mem_cons_self)) htest
  | filter_rejected _ htest ih =>
    exact .filter_rejected hsymbolic (ih (hsymbolic.call List.mem_cons_self)) htest
  | filter_failed _ ih => exact .filter_failed hsymbolic (ih (hsymbolic.call List.mem_cons_self))
  | rule hbody _ ih =>
    exact .rule hsymbolic hbody (ih (hsymbolic.call (by simp [hbody])))

theorem Derives.parse_matched {rules : Rules} {grammar : Grammar} {text left : Text}
    (h : Derives rules grammar (text ++ left) (.matched value left))
    (hsymbolic : grammar.Every rules Symbolic) :
    (grammar.parse rules (text ++ left)).outcome =
      .matched value ⟨text ++ left, text.byteSize⟩ := by
  obtain ⟨rest, hmatched, hon, hleft⟩ := h.attains hsymbolic (.start (text ++ left))
    ⟨rfl, Cursor.onSymbol_start _⟩ (Cursor.remainder_start _)
  rw [hon.eq_of_remainder hleft] at hmatched
  exact hmatched

theorem Derives.parse_failed {rules : Rules} {grammar : Grammar} {source : Text}
    (h : Derives rules grammar source .failed) (hsymbolic : grammar.Every rules Symbolic) :
    ∃ failure, (grammar.parse rules source).outcome = .failed failure :=
  h.attains hsymbolic (.start source) ⟨rfl, Cursor.onSymbol_start _⟩ (Cursor.remainder_start _)

/-- From a symbol of a text, the parser of a grammar matches exactly when a match is derived, with
the value that is derived and behind the symbols that it is derived to read, and fails exactly when
failure is derived. -/
theorem parser_iff_derives (hsymbolic : grammar.Every rules Symbolic) (hcursor : cursor.OnSymbol) :
    (∀ value rest, (grammar.parser rules cursor).outcome = .matched value rest ↔
      ∃ text, cursor.Reads text rest ∧
        Derives rules grammar cursor.remainder (.matched value rest.remainder)) ∧
    ((∃ failure, (grammar.parser rules cursor).outcome = .failed failure) ↔
      Derives rules grammar cursor.remainder .failed) := by
  have hfollows : Follows rules Eq grammar (grammar.parser rules) := {
    matched := (run_follows hsymbolic _).matched
    failed := (run_follows hsymbolic _).failed }
  refine ⟨fun value rest => ⟨fun h => ?_, ?_⟩, fun ⟨failure, h⟩ => hfollows.failed hcursor h, ?_⟩
  · obtain ⟨_, text, rfl, hreads, hderives⟩ := hfollows.matched hcursor h
    exact ⟨text, hreads, hderives⟩
  · rintro ⟨text, hreads, hderives⟩
    obtain ⟨rest', h, -, hleft⟩ := hderives.attains hsymbolic cursor (.rfl hcursor) rfl
    obtain ⟨_, text', rfl, hreads', -⟩ := hfollows.matched hcursor h
    rwa [hreads'.unique hreads hleft] at h
  · intro hderives
    exact hderives.attains hsymbolic cursor (.rfl hcursor) rfl

def parentheses : Rules :=
  [(['p'], .choose [.between (.character '(') (.character ')') (.rule ['p']), .literal []])]

theorem parentheses_symbolic : (Grammar.rule ['p']).Every parentheses Symbolic := by
  intro part hpart
  have hmem := hpart.mem_allNodes
  simp only [allNodes, nodes_eq, parts, parentheses, List.flatMap_nil, List.flatMap_cons,
    List.append_nil, List.nil_append, List.cons_append, List.mem_cons, List.not_mem_nil,
    or_false] at hmem
  obtain rfl | rfl | rfl | rfl | rfl | rfl | rfl := hmem <;> trivial

theorem parser_iff_derives_parentheses :
    Derives parentheses (.rule ['p']) ['(', '(', ')', ')', 'x'] (.matched (.text []) ['x']) := by
  have h : ((Grammar.rule ['p']).parser parentheses (.start ['(', '(', ')', ')', 'x'])).outcome =
      .matched (.text []) ⟨['(', '(', ')', ')', 'x'], 4⟩ := by cbv
  obtain ⟨text, -, hderives⟩ :=
    ((parser_iff_derives parentheses_symbolic (Cursor.onSymbol_start _)).1 _ _).mp h
  rw [Cursor.remainder_start] at hderives
  exact hderives

end Grammar

end Descent
