import Mathlib
import Descent.Proofs.Grammar.Regrouping

/-!
# Repetitions are exactly the chain of matches

`Exhausts`: the matches of a parser one behind the other, up to the cursor where
it fails. A repetition ends where there is such a chain (`star_exhausts`) and
takes all of it, however many matches it asks for; only then are they counted.
Asking for `k` matches is therefore `k` single matches and a repetition
(`Exhausts.unrolled`, `Exhausts.unrolled_failed`), and behind a repetition no
match of its body is left.
-/

namespace Descent

namespace Parser

/-- The values of all matches of a parser, one behind the other, and the cursor where it fails. -/
inductive Exhausts (parser : Parser α) : Cursor → List α → Cursor → Prop
  | done : (parser cursor).outcome = .failed cause → Exhausts parser cursor [] cursor
  | next : (parser cursor).outcome = .matched value middle → Exhausts parser middle values rest →
      Exhausts parser cursor (value :: values) rest

variable {α β γ : Type} {parser : Parser α} {cursor middle rest : Cursor} {values : List α}
  {limit : Nat}

theorem Exhausts.failed (h : Exhausts parser cursor values rest) :
    ∃ failure, (parser rest).outcome = .failed failure := by
  induction h with
  | done hfailed => exact ⟨_, hfailed⟩
  | next _ _ ih => exact ih

theorem Exhausts.none_left (h : Exhausts parser cursor values rest) : Exhausts parser rest [] rest := by
  obtain ⟨failure, hfailed⟩ := h.failed
  exact .done hfailed

theorem star_exhausts :
    (star limit parser cursor).outcome = .matched values rest ↔
      values.length < limit ∧ Exhausts parser cursor values rest := by
  induction limit generalizing cursor values with
  | zero => simp [star]
  | succ limit ih =>
    simp only [star_succ_matched, ih]
    constructor
    · rintro (⟨⟨failure, hfailed⟩, rfl, rfl⟩ | ⟨value, middle, later, hfirst, ⟨hlength, hlater⟩, rfl⟩)
      · exact ⟨Nat.succ_pos _, .done hfailed⟩
      · exact ⟨Nat.succ_lt_succ hlength, .next hfirst hlater⟩
    · rintro ⟨hlength, hfailed | ⟨hfirst, hlater⟩⟩
      · exact .inl ⟨⟨_, hfailed⟩, rfl, rfl⟩
      · exact .inr ⟨_, _, _, hfirst, ⟨Nat.lt_of_succ_lt_succ hlength, hlater⟩, rfl⟩

theorem star_ends_iff :
    (star limit parser cursor).outcome ≠ .unfinished ↔
      ∃ values rest, values.length < limit ∧ Exhausts parser cursor values rest := by
  simp only [← star_exhausts]
  cases h : (star limit parser cursor).outcome with
  | failed failure => exact absurd h star_not_failed
  | _ => simp

theorem Exhausts.many (h : Exhausts parser cursor values rest) (hlimit : values.length < limit)
    (least : Nat) :
    (parser.many limit least cursor).outcome =
      if values.length < least then
        .failed (.composite cursor (.tooFew cursor.index least values.length))
      else .matched values rest := by
  rw [many_outcome, star_exhausts.mpr ⟨hlimit, h⟩]

theorem many_zero_outcome (limit : Nat) (parser : Parser α) (cursor : Cursor) :
    (parser.many limit 0 cursor).outcome = (star limit parser cursor).outcome := by
  rw [many_outcome]
  cases (star limit parser cursor).outcome <;> rfl

theorem Exhausts.many_zero (h : Exhausts parser cursor values rest) (hlimit : values.length < limit) :
    (parser.many limit 0 cursor).outcome = .matched values rest := by
  rw [many_zero_outcome, star_exhausts.mpr ⟨hlimit, h⟩]

theorem many_exhausts (h : (parser.many limit least cursor).outcome = .matched values rest) :
    Exhausts parser cursor values rest :=
  (star_exhausts.mp (many_matched.mp h).1).2

-- ---------------------------------------------------------------------------
-- Repetitions written out
-- ---------------------------------------------------------------------------

theorem Exhausts.unrolled (h : Exhausts parser cursor values rest) (hlimit : values.length < limit)
    (hleast : least ≤ values.length) (f : α → β) (g : List α → β) :
    (sequence (List.replicate least (f <$> parser) ++ [g <$> parser.many limit 0]) cursor).outcome =
      .matched ((values.take least).map f ++ [g (values.drop least)]) rest := by
  rw [sequence_matched, ← each_matched]
  induction least generalizing cursor values with
  | zero =>
    rw [List.replicate_zero, List.nil_append, each_singleton, map_outcome, h.many_zero hlimit]
    rfl
  | succ least ih =>
    cases h with
    | done => cases hleast
    | next hfirst hlater =>
      have hrest := ih hlater (Nat.lt_of_succ_lt hlimit) (Nat.le_of_succ_le_succ hleast)
      rw [List.replicate_succ, List.cons_append, each_cons_outcome, map_outcome, hfirst]
      simp only [Outcome.map, Outcome.andThen, hrest]
      rfl

theorem Exhausts.unrolled_failed (h : Exhausts parser cursor values rest)
    (hleast : values.length < least) (f : α → β) (later : List (Parser β)) :
    ∃ failure, (sequence (List.replicate least (f <$> parser) ++ later) cursor).outcome =
      .failed failure := by
  suffices ∃ cause, (each (List.replicate least (f <$> parser) ++ later) cursor).outcome =
      .failed cause by
    obtain ⟨cause, hcause⟩ := this
    exact ⟨_, sequence_failed.mpr ⟨cause, hcause, rfl⟩⟩
  induction h generalizing least with
  | done hfailed =>
    obtain ⟨least, rfl⟩ := Nat.exists_eq_add_one_of_ne_zero (Nat.ne_zero_of_lt hleast)
    exact ⟨_, each_cons_failed.mpr (.inl (map_failed.mpr hfailed))⟩
  | next hfirst _ ih =>
    obtain ⟨least, rfl⟩ := Nat.exists_eq_add_one_of_ne_zero (Nat.ne_zero_of_lt hleast)
    obtain ⟨cause, hcause⟩ := ih (Nat.lt_of_succ_lt_succ hleast)
    exact ⟨cause, each_cons_failed.mpr (.inr ⟨_, _, map_matched.mpr ⟨_, hfirst, rfl⟩, hcause⟩)⟩

/-- What repetitions come to where the matches of their body are `values` and end at `rest`: the
repetition that asks for `least` matches, and so many single matches with a repetition behind them.
Lists are wrapped by `wrap`. -/
structure Repeated (wrap : List α → β) (cursor : Cursor) (values : List α) (rest : Cursor)
    (least : Nat) (repetition unrolled : Outcome β) : Prop where
  enough : least ≤ values.length →
    repetition = .matched (wrap values) rest ∧ unrolled = .matched (wrap values) rest
  few : values.length < least →
    repetition = .failed (.composite cursor (.tooFew cursor.index least values.length)) ∧
      ∃ failure, unrolled = .failed failure

theorem Exhausts.repeated (h : Exhausts parser cursor values rest) (hlimit : values.length < limit)
    (least : Nat) :
    Repeated id cursor values rest least (parser.many limit least cursor).outcome
      ((sequence (List.replicate least (Sum.inl <$> parser) ++
        [Sum.inr <$> parser.many limit 0]) cursor).outcome.map spliced) := by
  constructor
  · intro hleast
    rw [h.many hlimit, if_neg (Nat.not_lt.mpr hleast), h.unrolled hlimit hleast]
    refine ⟨rfl, congrArg (Outcome.matched · rest) ?_⟩
    have hspliced := spliced_inr (values.take least) (values.drop least) []
    rwa [List.map_nil, List.append_nil, List.append_nil, List.take_append_drop] at hspliced
  · intro hleast
    obtain ⟨failure, hfailed⟩ := h.unrolled_failed hleast Sum.inl [Sum.inr <$> parser.many limit 0]
    rw [h.many hlimit, if_pos hleast, hfailed]
    exact ⟨rfl, failure, rfl⟩

-- ---------------------------------------------------------------------------
-- Behind a repetition
-- ---------------------------------------------------------------------------

theorem sequence_many_self (parser : Parser α) (limit least : Nat) (cursor : Cursor)
    (f : List α → β) (g : α → β) (found : List β) (rest : Cursor) :
    (sequence [f <$> parser.many limit least, g <$> parser] cursor).outcome ≠
      .matched found rest := by
  intro h
  obtain _ | ⟨hmany, _ | ⟨hbehind, -⟩⟩ := sequence_matched.mp h
  obtain ⟨values, hvalues, -⟩ := map_matched.mp hmany
  obtain ⟨failure, hfailed⟩ := (many_exhausts hvalues).failed
  obtain ⟨value, hmatched, -⟩ := map_matched.mp hbehind
  cases hfailed.symm.trans hmatched

theorem Exhausts.eq_nil (h : Exhausts parser cursor values rest)
    (hfailed : (parser cursor).outcome = .failed cause) : values = [] ∧ rest = cursor := by
  cases h with
  | done => exact ⟨rfl, rfl⟩
  | next hmatched => cases hfailed.symm.trans hmatched

theorem sequence_many_many {found : List β} (f : List α → β)
    (h : (sequence [f <$> parser.many limit least, f <$> parser.many limit 0] cursor).outcome =
      .matched found rest) : ∃ values, found = [f values, f []] := by
  obtain _ | ⟨hmany, _ | ⟨hbehind, ⟨⟩⟩⟩ := sequence_matched.mp h
  obtain ⟨values, hvalues, rfl⟩ := map_matched.mp hmany
  obtain ⟨later, hlater, rfl⟩ := map_matched.mp hbehind
  obtain ⟨failure, hfailed⟩ := (many_exhausts hvalues).failed
  obtain ⟨rfl, -⟩ := (many_exhausts hlater).eq_nil hfailed
  exact ⟨values, rfl⟩

theorem Exhausts.twice (h : Exhausts parser cursor values rest) (hlimit : values.length < limit)
    (f : List α → β) :
    (sequence [f <$> parser.many limit 0, f <$> parser.many limit 0] cursor).outcome =
      .matched [f values, f []] rest := by
  have hfirst := h.many_zero hlimit
  have hsecond := h.none_left.many_zero (Nat.zero_lt_of_lt hlimit)
  refine sequence_matched.mpr (.cons (map_matched.mpr ⟨_, hfirst, rfl⟩) (.cons ?_ .nil))
  exact map_matched.mpr ⟨_, hsecond, rfl⟩

end Parser

namespace Grammar

variable {rules : Rules} {source : Text} {body : Grammar} {cursor : Cursor} {limit : Nat}

theorem many_stays (hstays : body.Every rules Stays) (least : Nat) :
    (many body least).Every rules Stays := stays_of_parts trivial (by simpa)

theorem many_alike (hstays : body.Every rules Stays) (hlimit : source.length < limit)
    (least : Nat) :
    Parser.Alike source ((many body least).parser rules)
      (Value.list <$> (body.parser rules).many limit least) :=
  parser_alike (many_stays hstays least) hlimit

theorem unrolled_alike (hstays : body.Every rules Stays) (hlimit : source.length < limit)
    (least : Nat) :
    Parser.Alike source ((list (List.replicate least body ++ [many body 0])).parser rules)
      (Value.list <$> Parser.sequence (List.replicate least (body.parser rules) ++
        [Value.list <$> (body.parser rules).many limit 0])) := by
  have hbefore : ∀ part ∈ List.replicate least body, part.Every rules Stays := by
    intro part hpart
    rwa [List.eq_of_mem_replicate hpart]
  have hlist : (list (List.replicate least body ++ [many body 0])).Every rules Stays := by
    refine stays_of_parts trivial fun part hpart => ?_
    obtain hpart | hpart := List.mem_append.mp hpart
    · exact hbefore part hpart
    · rw [List.mem_singleton.mp hpart]
      exact many_stays hstays 0
  have hrow := List.rel_append (parsers_alike_self hbefore)
    (.cons (many_alike hstays hlimit 0) .nil)
  rw [List.map_replicate] at hrow
  refine (parser_alike hlist hlimit).trans (.map (.sequence ?_) Value.list)
  simpa using hrow

theorem pair_alike {first second : Grammar} {first' second' : Parser Value}
    (hfirst : first.Every rules Stays) (hsecond : second.Every rules Stays)
    (hlimit : source.length < limit) (halike : Parser.Alike source (first.parser rules) first')
    (halike' : Parser.Alike source (second.parser rules) second') :
    Parser.Alike source ((tuple [first, second]).parser rules)
      (Value.tuple <$> Parser.sequence [first', second']) := by
  have htuple : (tuple [first, second]).Every rules Stays :=
    stays_of_parts trivial (by simp [hfirst, hsecond])
  exact (parser_alike htuple hlimit).trans
    (.map (.sequence (.cons halike (.cons halike' .nil))) Value.tuple)

theorem many_repeated (hstays : body.Every rules Stays) (hcursor : cursor.OnSymbol)
    (h : (body.parser rules).Exhausts cursor values rest) (least : Nat) :
    Parser.Repeated Value.list cursor values rest least
      ((many body least).parser rules cursor).outcome
      (((list (List.replicate least body ++ [many body 0])).parser rules cursor).outcome.map
        (Value.spliced least)) := by
  have hlimit : cursor.source.length < cursor.source.length + values.length + 1 := by omega
  have hlength : values.length < cursor.source.length + values.length + 1 := by omega
  rw [(many_alike hstays hlimit least).outcome_eq (.rfl hcursor),
    (unrolled_alike hstays hlimit least).outcome_eq (.rfl hcursor), Parser.map_outcome,
    Parser.map_outcome, h.many hlength]
  constructor
  · intro hleast
    have hunrolled := h.unrolled hlength hleast id Value.list
    rw [Parser.id_map, List.map_id] at hunrolled
    rw [if_neg (Nat.not_lt.mpr hleast), hunrolled]
    refine ⟨rfl, congrArg (Outcome.matched · rest) ?_⟩
    have hspliced := Value.spliced_list (values.take least) (values.drop least) []
    rwa [List.append_nil, List.append_nil, List.take_append_drop,
      List.length_take_of_le hleast] at hspliced
  · intro hleast
    obtain ⟨failure, hfailed⟩ := h.unrolled_failed hleast id
      [Value.list <$> (body.parser rules).many (cursor.source.length + values.length + 1) 0]
    rw [Parser.id_map] at hfailed
    rw [if_pos hleast, hfailed]
    exact ⟨rfl, failure, rfl⟩

theorem many_ends_iff (hstays : body.Every rules Stays) (hcursor : cursor.OnSymbol) (least : Nat) :
    ((many body least).parser rules cursor).outcome ≠ .unfinished ↔
      ∃ values rest, (body.parser rules).Exhausts cursor values rest := by
  constructor
  · intro hends
    have hlimit := Nat.lt_succ_self cursor.source.length
    rw [(many_alike hstays hlimit least).outcome_eq (.rfl hcursor), Ne, Parser.map_unfinished,
      Parser.many_unfinished] at hends
    obtain ⟨values, rest, -, h⟩ := Parser.star_ends_iff.mp hends
    exact ⟨values, rest, h⟩
  · rintro ⟨values, rest, h⟩
    have hrepeated := many_repeated hstays hcursor h least
    obtain hleast | hleast := Nat.lt_or_ge values.length least
    · simp [(hrepeated.few hleast).1]
    · simp [(hrepeated.enough hleast).1]

theorem many_matched_failed (hstays : body.Every rules Stays) (hcursor : cursor.OnSymbol)
    (h : ((many body least).parser rules cursor).outcome = .matched value rest) :
    ∃ failure, (body.parser rules rest).outcome = .failed failure := by
  have hlimit := Nat.lt_succ_self cursor.source.length
  rw [(many_alike hstays hlimit least).outcome_eq (.rfl hcursor)] at h
  obtain ⟨values, hmany, -⟩ := Parser.map_matched.mp h
  exact (Parser.many_exhausts hmany).failed

theorem tuple_many_self (hstays : body.Every rules Stays) (hcursor : cursor.OnSymbol)
    (value : Value) (rest : Cursor) :
    ((tuple [many body 0, body]).parser rules cursor).outcome ≠ .matched value rest := by
  have hlimit := Nat.lt_succ_self cursor.source.length
  have halike := pair_alike (many_stays hstays 0) hstays hlimit (many_alike hstays hlimit 0)
    (parser_alike_self hstays)
  rw [halike.outcome_eq (.rfl hcursor), Ne, Parser.map_matched]
  rintro ⟨found, hfound, -⟩
  have hnever := Parser.sequence_many_self (body.parser rules) cursor.source.length.succ 0 cursor
    Value.list id found rest
  rw [Parser.id_map] at hnever
  exact hnever hfound

theorem tuple_many_many_alike (hstays : body.Every rules Stays) (hlimit : source.length < limit) :
    Parser.Alike source ((tuple [many body 0, many body 0]).parser rules)
      (Value.tuple <$> Parser.sequence [Value.list <$> (body.parser rules).many limit 0,
        Value.list <$> (body.parser rules).many limit 0]) :=
  pair_alike (many_stays hstays 0) (many_stays hstays 0) hlimit (many_alike hstays hlimit 0)
    (many_alike hstays hlimit 0)

/-- A repetition ends where the matches of its body do and takes all of them. If they are as many as
it asks for, it matches, and so do the single matches it asks for and a repetition behind them; if
not, both fail, the repetition where it was entered and with the number it found. Behind a
repetition its body does not match. -/
theorem repetition_exact :
    (∀ {α : Type} (limit : Nat) (parser : Parser α) (cursor : Cursor),
      (∀ least, (parser.many limit least cursor).outcome ≠ .unfinished ↔
        ∃ values rest, values.length < limit ∧ parser.Exhausts cursor values rest) ∧
      (∀ values rest, parser.Exhausts cursor values rest → values.length < limit →
        (∀ least, Parser.Repeated id cursor values rest least
          (parser.many limit least cursor).outcome
          ((Parser.sequence (List.replicate least (Sum.inl <$> parser) ++
            [Sum.inr <$> parser.many limit 0]) cursor).outcome.map Parser.spliced)) ∧
        (Parser.sequence [parser.many limit 0, parser.many limit 0] cursor).outcome =
          .matched [values, []] rest) ∧
      (∀ least values rest, (parser.many limit least cursor).outcome = .matched values rest →
        ∃ failure, (parser rest).outcome = .failed failure) ∧
      (∀ found rest,
        (Parser.sequence [Sum.inr <$> parser.many limit 0, Sum.inl <$> parser] cursor).outcome ≠
          .matched found rest) ∧
      ∀ found rest,
        (Parser.sequence [parser.many limit 0, parser.many limit 0] cursor).outcome =
          .matched found rest → ∃ values, found = [values, []]) ∧
    ∀ (rules : Rules) (body : Grammar) (cursor : Cursor), body.Every rules Stays →
      cursor.OnSymbol →
      (∀ least, ((many body least).parser rules cursor).outcome ≠ .unfinished ↔
        ∃ values rest, (body.parser rules).Exhausts cursor values rest) ∧
      (∀ values rest, (body.parser rules).Exhausts cursor values rest →
        (∀ least, Parser.Repeated Value.list cursor values rest least
          ((many body least).parser rules cursor).outcome
          (((list (List.replicate least body ++ [many body 0])).parser rules cursor).outcome.map
            (Value.spliced least))) ∧
        ((tuple [many body 0, many body 0]).parser rules cursor).outcome =
          .matched (.tuple [.list values, .list []]) rest) ∧
      (∀ least value rest, ((many body least).parser rules cursor).outcome = .matched value rest →
        ∃ failure, (body.parser rules rest).outcome = .failed failure) ∧
      (∀ value rest, ((tuple [many body 0, body]).parser rules cursor).outcome ≠
        .matched value rest) ∧
      ∀ value rest, ((tuple [many body 0, many body 0]).parser rules cursor).outcome =
        .matched value rest → ∃ values, value = .tuple [.list values, .list []] := by
  constructor
  · intro α limit parser cursor
    refine ⟨fun least => ?_, fun values rest h hlimit => ⟨h.repeated hlimit, ?_⟩,
      fun least values rest h => (Parser.many_exhausts h).failed,
      Parser.sequence_many_self parser limit 0 cursor Sum.inr Sum.inl, fun found rest h => ?_⟩
    · rw [Ne, Parser.many_unfinished, ← Ne, Parser.star_ends_iff]
    · simpa only [Parser.id_map, id_eq] using h.twice hlimit id
    · rw [← Parser.id_map (parser.many limit 0)] at h
      exact Parser.sequence_many_many id h
  · intro rules body cursor hstays hcursor
    refine ⟨many_ends_iff hstays hcursor,
      fun values rest h => ⟨many_repeated hstays hcursor h, ?_⟩,
      fun least value rest h => many_matched_failed hstays hcursor h,
      tuple_many_self hstays hcursor, fun value rest h => ?_⟩
    · have hlimit : cursor.source.length < cursor.source.length + values.length + 1 := by omega
      rw [(tuple_many_many_alike hstays hlimit).outcome_eq (.rfl hcursor), Parser.map_outcome,
        h.twice (by omega)]
      rfl
    · have hlimit := Nat.lt_succ_self cursor.source.length
      rw [(tuple_many_many_alike hstays hlimit).outcome_eq (.rfl hcursor)] at h
      obtain ⟨found, hfound, rfl⟩ := Parser.map_matched.mp h
      obtain ⟨values, rfl⟩ := Parser.sequence_many_many _ hfound
      exact ⟨values, rfl⟩

def syllable : Grammar := .choose [.literal ['a', 'b'], .character 'é']

theorem syllable_stays : syllable.Every [] Stays := by
  refine stays_of_parts trivial fun part hpart => ?_
  obtain rfl | rfl := List.mem_pair.mp hpart
  · exact stays_of_parts trivial (by simp)
  · exact character_stays [] 'é'

theorem syllable_exhausts :
    (syllable.parser []).Exhausts (.start ['é', 'a', 'b', 'é', 'a'])
      [.char 'é', .text ['a', 'b'], .char 'é'] ⟨['é', 'a', 'b', 'é', 'a'], 6⟩ := by
  have hfirst : (syllable.parser [] ⟨['é', 'a', 'b', 'é', 'a'], 0⟩).outcome =
      .matched (.char 'é') ⟨['é', 'a', 'b', 'é', 'a'], 2⟩ := by cbv
  have hsecond : (syllable.parser [] ⟨['é', 'a', 'b', 'é', 'a'], 2⟩).outcome =
      .matched (.text ['a', 'b']) ⟨['é', 'a', 'b', 'é', 'a'], 4⟩ := by cbv
  have hthird : (syllable.parser [] ⟨['é', 'a', 'b', 'é', 'a'], 4⟩).outcome =
      .matched (.char 'é') ⟨['é', 'a', 'b', 'é', 'a'], 6⟩ := by cbv
  have hlast : (syllable.parser [] ⟨['é', 'a', 'b', 'é', 'a'], 6⟩).outcome =
      .failed (.composite ⟨['é', 'a', 'b', 'é', 'a'], 6⟩ (.noAlternative 6)) := by cbv
  exact .next hfirst (.next hsecond (.next hthird (.done hlast)))

theorem repetition_exact_syllables :
    ((many syllable 2).parser [] (.start ['é', 'a', 'b', 'é', 'a'])).outcome =
      .matched (.list [.char 'é', .text ['a', 'b'], .char 'é']) ⟨['é', 'a', 'b', 'é', 'a'], 6⟩ ∧
    ((many syllable 4).parser [] (.start ['é', 'a', 'b', 'é', 'a'])).outcome =
      .failed (.composite (.start ['é', 'a', 'b', 'é', 'a']) (.tooFew 0 4 3)) ∧
    ∃ failure, (((list (List.replicate 4 syllable ++ [many syllable 0])).parser []
      (.start ['é', 'a', 'b', 'é', 'a'])).outcome.map (Value.spliced 4)) = .failed failure := by
  obtain ⟨-, hrepeated, -⟩ := repetition_exact.2 [] syllable (.start ['é', 'a', 'b', 'é', 'a'])
    syllable_stays (Cursor.onSymbol_start _)
  obtain ⟨hrepeated, -⟩ := hrepeated _ _ syllable_exhausts
  exact ⟨((hrepeated 2).enough (by decide)).1, (hrepeated 4).few (by decide)⟩

end Grammar

end Descent
