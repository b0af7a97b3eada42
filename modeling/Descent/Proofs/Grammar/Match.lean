import Descent.Proofs.Grammar.Depth

/-!
# What a match is made of

Said once for all grammars: the match of a grammar with parts is the matches of
its parts one behind the other (`Unrolls`, `Threaded`), and its value is built
of theirs (`Builds`). `Matching` adds the grammars of which that is not all:
those without parts, choices, and the two that look at cursors. A match of one
level has this form whatever the parts are (`assemble_matching`), and what holds
of a match whenever it holds of the matches it is made of holds of all
(`matches_induction`). No depths or limits are left.
-/

namespace Descent.Grammar

def MatchedBy (part : Grammar → Parser Value) (grammar : Grammar) (cursor : Cursor) (value : Value)
    (rest : Cursor) : Prop := (part grammar cursor).outcome = .matched value rest

def FailedBy (part : Grammar → Parser Value) (grammar : Grammar) (cursor : Cursor) : Prop :=
  ∃ failure, (part grammar cursor).outcome = .failed failure

abbrev Matches (rules : Rules) : Grammar → Cursor → Value → Cursor → Prop :=
  MatchedBy (parser rules)

abbrev Fails (rules : Rules) : Grammar → Cursor → Prop := FailedBy (parser rules)

/-- A grammar and the parts that a match of it may have, in order. -/
inductive Unrolls (rules : Rules) : Grammar → List Grammar → Prop
  | tuple : Unrolls rules (.tuple all) all
  | list : Unrolls rules (.list all) all
  | between {inner : Grammar} :
      Unrolls rules (.between opening closing inner) [opening, inner, closing]
  | optional : Unrolls rules (.optional body) [body]
  | many (rounds : Nat) : Unrolls rules (.many body least) (List.replicate rounds body)
  | interpose (rounds : Nat) : Unrolls rules (.interpose item separator)
      (item :: (List.replicate rounds [separator, item]).flatten)
  | chainl (rounds : Nat) : Unrolls rules (.chainl operand operator fold)
      (operand :: (List.replicate rounds [operator, operand]).flatten)
  | map : Unrolls rules (.map body mapping) [body]
  | filter : Unrolls rules (.filter body test message) [body]
  | indexed : Unrolls rules (.indexed body) [body]
  | rule : rules.lookup name = some body → Unrolls rules (.rule name) [body]

/-- The value of a match and the values of its parts. -/
inductive Builds : Grammar → List Value → Value → Prop
  | tuple : Builds (.tuple all) values (.tuple values)
  | list : Builds (.list all) values (.list values)
  | between {inner : Grammar} : Builds (.between opening closing inner) [first, value, last] value
  | optional : Builds (.optional body) [value] (.some value)
  | many : least ≤ values.length → Builds (.many body least) values (.list values)
  | interpose : Builds (.interpose item separator) values (.list values)
  | chainl {pairs : List (Value × Value)} : Builds (.chainl operand operator fold)
      (first :: pairs.flatMap fun (link, value) => [link, value])
      (pairs.foldl (fun joined (link, value) => fold link joined value) first)
  | map : Builds (.map body mapping) [value] (mapping value)
  | filter : test value = true → Builds (.filter body test message) [value] value
  | rule : Builds (.rule name) [value] value

/-- Grammars that match one behind the other, in the sense of `matched`. -/
inductive Threaded (matched : Grammar → Cursor → Value → Cursor → Prop) :
    List Grammar → Cursor → List Value → Cursor → Prop
  | nil : Threaded matched [] cursor [] cursor
  | cons : matched part cursor value middle → Threaded matched later middle values rest →
      Threaded matched (part :: later) cursor (value :: values) rest

/-- The match of a grammar, in terms of how other grammars match and fail. -/
inductive Matching (rules : Rules) (matched : Grammar → Cursor → Value → Cursor → Prop)
    (failed : Grammar → Cursor → Prop) : Grammar → Cursor → Value → Cursor → Prop
  | character : cursor.current = some symbol →
      Matching rules matched failed (.character symbol) cursor (.char symbol) (cursor.advance 1)
  | literal : expected <+: cursor.remainder →
      Matching rules matched failed (.literal expected) cursor (.text expected)
        (cursor.skipBytes (Text.byteSize expected))
  | pattern : searched.matchStart? cursor.remainder = some (found, length) →
      Matching rules matched failed (.pattern searched) cursor (.captures found)
        (cursor.skipBytes (Text.byteSize (cursor.remainder.take length)))
  | leaf : function cursor = .ok (value, rest) →
      Matching rules matched failed (.leaf function) cursor value rest
  | parts : Unrolls rules grammar all → Threaded matched all cursor values rest →
      Builds grammar values value → Matching rules matched failed grammar cursor value rest
  | choose : (∀ earlier ∈ before, failed earlier cursor) → matched winner cursor value rest →
      Matching rules matched failed (.choose (before ++ winner :: after)) cursor value rest
  | absent : failed body cursor → Matching rules matched failed (.optional body) cursor .none cursor
  | indexed : matched body cursor value rest →
      Matching rules matched failed (.indexed body) cursor
        (.spanned value ⟨cursor.source, cursor.index, rest.index⟩) rest
  | mapState : matched body cursor value middle →
      revision cursor value middle = .ok (revised, rest) →
      Matching rules matched failed (.mapState body revision) cursor revised rest

variable {rules : Rules} {grammar : Grammar} {source : Text} {cursor : Cursor}
  {matched matched' : Grammar → Cursor → Value → Cursor → Prop}
  {failed failed' : Grammar → Cursor → Prop}

theorem Unrolls.calls {all : List Grammar} (h : Unrolls rules grammar all) :
    ∀ part ∈ all, part ∈ grammar.calls rules := by
  cases h with
  | many rounds =>
    intro part hpart
    simp [List.eq_of_mem_replicate hpart]
  | interpose rounds | chainl rounds =>
    intro part hpart
    simp only [List.mem_cons, List.mem_flatten, List.mem_replicate] at hpart
    obtain rfl | ⟨pair, ⟨-, rfl⟩, hpair⟩ := hpart
    · simp
    · simp only [List.mem_cons, List.not_mem_nil, or_false] at hpair
      simp [hpair.symm]
  | rule hbody => simp [hbody]
  | between => simp [or_comm]
  | _ => simp

theorem Threaded.imp_on (good : Cursor → Prop) {all : List Grammar}
    (himp : ∀ part ∈ all, ∀ entry value rest, good entry →
      matched part entry value rest → good rest ∧ matched' part entry value rest)
    (hcursor : good cursor) (h : Threaded matched all cursor values rest) :
    Threaded matched' all cursor values rest := by
  induction h with
  | nil => exact .nil
  | cons hfirst _ ih =>
    obtain ⟨hhead, htail⟩ := List.forall_mem_cons.mp himp
    obtain ⟨hmiddle, hfirst⟩ := hhead _ _ _ hcursor hfirst
    exact .cons hfirst (ih htail hmiddle)

theorem Threaded.imp {all : List Grammar}
    (himp : ∀ part entry value rest, matched part entry value rest → matched' part entry value rest)
    (h : Threaded matched all cursor values rest) : Threaded matched' all cursor values rest :=
  h.imp_on (fun _ => True) (fun _ _ _ _ _ _ hmatched => ⟨trivial, himp _ _ _ _ hmatched⟩) trivial

theorem Matching.imp_on (good : Cursor → Prop)
    (hmatched : ∀ part ∈ grammar.calls rules, ∀ entry value rest, good entry →
      matched part entry value rest → good rest ∧ matched' part entry value rest)
    (hfailed : ∀ part ∈ grammar.calls rules, ∀ entry, good entry →
      failed part entry → failed' part entry)
    (hcursor : good cursor)
    (h : Matching rules matched failed grammar cursor value rest) :
    Matching rules matched' failed' grammar cursor value rest := by
  cases h with
  | character hcurrent => exact .character hcurrent
  | literal hstarts => exact .literal hstarts
  | pattern hfound => exact .pattern hfound
  | leaf hleaf => exact .leaf hleaf
  | parts hunrolls hthreaded hbuilds =>
    have hall := fun part hpart => hmatched part (hunrolls.calls part hpart)
    exact .parts hunrolls (hthreaded.imp_on good hall hcursor) hbuilds
  | choose hbefore hwinner =>
    refine .choose (fun earlier hearlier => ?_) (hmatched _ (by simp) _ _ _ hcursor hwinner).2
    exact hfailed earlier (List.mem_append_left _ hearlier) _ hcursor (hbefore earlier hearlier)
  | absent hbody => exact .absent (hfailed _ (by simp) _ hcursor hbody)
  | indexed hbody => exact .indexed (hmatched _ (by simp) _ _ _ hcursor hbody).2
  | mapState hbody hrevision =>
    exact .mapState (hmatched _ (by simp) _ _ _ hcursor hbody).2 hrevision

theorem Matching.imp
    (himp : ∀ part ∈ grammar.calls rules, ∀ entry value rest, matched part entry value rest →
      matched' part entry value rest)
    (h : Matching rules matched failed grammar cursor value rest) :
    Matching rules matched' failed grammar cursor value rest :=
  h.imp_on (fun _ => True)
    (fun part hpart _ _ _ _ hmatched => ⟨trivial, himp part hpart _ _ _ hmatched⟩)
    (fun _ _ _ _ hfailed => hfailed) trivial

-- ---------------------------------------------------------------------------
-- One level
-- ---------------------------------------------------------------------------

section
variable {part : Grammar → Parser Value} {limit : Nat}

theorem threaded_of_threads {all : List Grammar}
    (h : Parser.Threads (all.map part) cursor values rest) :
    Threaded (MatchedBy part) all cursor values rest := by
  induction all generalizing cursor values with
  | nil =>
    cases h
    exact .nil
  | cons first later ih =>
    cases h with
    | cons hfirst hlater => exact .cons hfirst (ih hlater)

theorem threaded_of_linked {link : Parser β} {f : Value → β} {linking item : Grammar}
    (hlink : ∀ {entry joined rest}, (link entry).outcome = .matched joined rest →
      ∃ value, MatchedBy part linking entry value rest ∧ f value = joined)
    (h : Parser.Threads (List.replicate rounds (Parser.linked dangling link (part item))) cursor
      found rest) :
    ∃ pairs : List (Value × Value), found = pairs.map (fun (link, value) => (f link, value)) ∧
      Threaded (MatchedBy part) (List.replicate rounds [linking, item]).flatten cursor
        (pairs.flatMap fun (link, value) => [link, value]) rest := by
  induction rounds generalizing cursor found with
  | zero =>
    cases h
    exact ⟨[], rfl, .nil⟩
  | succ rounds ih =>
    cases h with
    | @cons _ pair _ _ _ _ _ hpair hlater =>
      obtain ⟨middle, hfirst, hsecond⟩ := Parser.linked_matched.mp hpair
      obtain ⟨value, hvalue, hjoined⟩ := hlink hfirst
      obtain ⟨pairs, rfl, hpairs⟩ := ih hlater
      refine ⟨(value, pair.2) :: pairs, ?_, .cons hvalue (.cons hsecond hpairs)⟩
      simp only [List.map_cons, hjoined]

theorem assemble_matching (h : (assemble rules limit part grammar cursor).outcome =
      .matched value rest) :
    Matching rules (MatchedBy part) (FailedBy part) grammar cursor value rest := by
  cases grammar with
  | character expected =>
    obtain ⟨_, hinner, rfl⟩ := Parser.map_matched.mp h
    obtain ⟨hcurrent, rfl, rfl⟩ := Parser.character_matched.mp hinner
    exact .character hcurrent
  | literal expected =>
    obtain ⟨_, hinner, rfl⟩ := Parser.map_matched.mp h
    obtain ⟨hstarts, rfl, rfl⟩ := Parser.literal_matched.mp hinner
    exact .literal hstarts
  | pattern searched =>
    obtain ⟨_, hinner, rfl⟩ := Parser.map_matched.mp h
    obtain ⟨length, hfound, rfl⟩ := Parser.pattern_matched.mp hinner
    exact .pattern hfound
  | leaf function =>
    simp only [assemble, Leaf.parser, Parser.here_bind] at h
    cases hleaf : function cursor with
    | ok found =>
      simp only [hleaf, Parser.bind_outcome, Parser.moveTo_outcome, Parser.pure_outcome] at h
      obtain ⟨rfl, rfl⟩ := Outcome.matched.inj h
      exact .leaf hleaf
    | error failure => simp [hleaf] at h
  | tuple all =>
    obtain ⟨values, hinner, rfl⟩ := Parser.map_matched.mp h
    exact .parts .tuple (threaded_of_threads (Parser.sequence_matched.mp hinner)) .tuple
  | list all =>
    obtain ⟨values, hinner, rfl⟩ := Parser.map_matched.mp h
    exact .parts .list (threaded_of_threads (Parser.sequence_matched.mp hinner)) .list
  | choose alternatives =>
    obtain ⟨before, _, after, halternatives, hbefore, hwinner⟩ := Parser.choose_matched.mp h
    obtain ⟨before, _, rfl, rfl, hlater⟩ := List.map_eq_append_iff.mp halternatives
    obtain ⟨winner, after, rfl, rfl, rfl⟩ := List.map_eq_cons_iff.mp hlater
    refine .choose (fun earlier hearlier => ?_) hwinner
    exact hbefore _ (List.mem_map_of_mem hearlier)
  | optional body =>
    obtain ⟨found, hinner, rfl⟩ := Parser.map_matched.mp h
    cases found with
    | none =>
      obtain ⟨hfailed, rfl⟩ := Parser.optional_none.mp hinner
      exact .absent hfailed
    | some found =>
      exact .parts .optional (.cons (Parser.optional_some.mp hinner) .nil) .optional
  | many body least =>
    obtain ⟨values, hinner, rfl⟩ := Parser.map_matched.mp h
    obtain ⟨hstar, hleast⟩ := Parser.many_matched.mp hinner
    obtain ⟨-, hrounds, -⟩ := Parser.star_matched.mp hstar
    rw [← List.map_replicate] at hrounds
    exact .parts (.many _) (threaded_of_threads hrounds) (.many hleast)
  | interpose item separator =>
    obtain ⟨_, hinner, rfl⟩ := Parser.map_matched.mp h
    obtain ⟨first, found, hchain, rfl⟩ := Parser.interpose_matched.mp hinner
    obtain ⟨middle, hfirst, hstar⟩ := Parser.chain_matched.mp hchain
    obtain ⟨-, hrounds, -⟩ := Parser.star_matched.mp hstar
    obtain ⟨pairs, rfl, hpairs⟩ := threaded_of_linked (f := id)
      (fun hmatched => ⟨_, hmatched, rfl⟩) hrounds
    refine .parts (.interpose _) (.cons hfirst hpairs) ?_
    simp only [id_eq, List.map_id']
    exact .interpose
  | between opening closing inner =>
    obtain ⟨first, opened, last, closed, h, h', h''⟩ := Parser.between_matched.mp h
    exact .parts .between (.cons h (.cons h' (.cons h'' .nil))) .between
  | chainl operand operator fold =>
    obtain ⟨first, found, hchain, rfl⟩ := Parser.chainl_matched.mp h
    obtain ⟨middle, hfirst, hstar⟩ := Parser.chain_matched.mp hchain
    obtain ⟨-, hrounds, -⟩ := Parser.star_matched.mp hstar
    obtain ⟨pairs, rfl, hpairs⟩ := threaded_of_linked (f := fold) Parser.map_matched.mp hrounds
    refine .parts (.chainl _) (.cons hfirst hpairs) ?_
    rw [List.foldl_map]
    exact .chainl
  | map body mapping =>
    obtain ⟨_, hinner, rfl⟩ := Parser.map_matched.mp h
    exact .parts .map (.cons hinner .nil) .map
  | mapState body revision =>
    obtain ⟨inner, middle, hinner, hrevision⟩ := Parser.mapState_matched.mp h
    exact .mapState hinner hrevision
  | filter body test message =>
    obtain ⟨hinner, htest⟩ := Parser.filter_matched.mp h
    exact .parts .filter (.cons hinner .nil) (.filter htest)
  | indexed body =>
    obtain ⟨⟨inner, span⟩, hinner, rfl⟩ := Parser.map_matched.mp h
    obtain ⟨hbody, rfl⟩ := Parser.indexed_matched.mp hinner
    exact .indexed hbody
  | rule name =>
    cases hbody : rules.lookup name with
    | none => simp [assemble, hbody] at h
    | some body =>
      simp only [assemble, hbody] at h
      exact .parts (.rule hbody) (.cons h .nil) .rule

end

-- ---------------------------------------------------------------------------
-- All levels
-- ---------------------------------------------------------------------------

theorem matches_of_run (hstays : grammar.Every rules Stays) (hcursor : cursor.OnSymbol)
    (h : MatchedBy (run rules depth) grammar cursor value rest) :
    Matches rules grammar cursor value rest := by
  unfold MatchedBy at h
  have hends : (run rules depth grammar cursor).outcome ≠ .unfinished := by simp [h]
  show (grammar.parser rules cursor).outcome = _
  rw [parser_eq_run hstays hcursor hends, h]

theorem fails_of_run (hstays : grammar.Every rules Stays) (hcursor : cursor.OnSymbol)
    (h : FailedBy (run rules depth) grammar cursor) : Fails rules grammar cursor := by
  obtain ⟨failure, h⟩ := h
  have hends : (run rules depth grammar cursor).outcome ≠ .unfinished := by simp [h]
  exact ⟨failure, by rw [parser_eq_run hstays hcursor hends, h]⟩

theorem Matches.matching (h : Matches rules grammar cursor value rest)
    (hstays : grammar.Every rules Stays) (hcursor : cursor.OnSymbol) :
    Matching rules (Matches rules) (Fails rules) grammar cursor value rest := by
  unfold Matches MatchedBy at h
  rw [parser_outcome hstays hcursor (Nat.lt_succ_self _)] at h
  exact assemble_matching h

theorem Matches.on (h : Matches rules grammar cursor value rest)
    (hstays : grammar.Every rules Stays) (hcursor : Cursor.On source cursor) :
    Cursor.On source rest := run_keeps hstays hcursor h

/-- What holds of a match whenever it holds of the matches that it is made of. -/
theorem matches_induction {property : Grammar → Prop}
    {motive : Grammar → Cursor → Value → Cursor → Prop}
    (hproperty : ∀ grammar, property grammar → grammar.Stays)
    (step : ∀ grammar cursor value rest, grammar.Every rules property → cursor.OnSymbol →
      Matching rules
        (fun part entry found stop => entry.OnSymbol ∧ Matches rules part entry found stop ∧
          motive part entry found stop)
        (Fails rules) grammar cursor value rest →
      motive grammar cursor value rest)
    (hgrammar : grammar.Every rules property) (hcursor : cursor.OnSymbol)
    (h : Matches rules grammar cursor value rest) : motive grammar cursor value rest := by
  unfold Matches MatchedBy parser at h
  -- A part of a match of one depth is matched at the depth below, whichever depth its parser takes.
  generalize grammar.depthFor rules cursor.source = depth at h
  induction depth generalizing grammar cursor value rest with
  | zero => simp [run] at h
  | succ depth ih =>
    rw [run_succ] at h
    refine step grammar cursor value rest hgrammar hcursor ?_
    refine (assemble_matching h).imp_on (Cursor.On cursor.source) ?_ ?_ (.rfl hcursor)
    · intro part hpart entry found stop hentry hmatched
      have hpart := hgrammar.call hpart
      have hstays := hpart.imp hproperty
      exact ⟨run_keeps hstays hentry hmatched, hentry.onSymbol,
        matches_of_run hstays hentry.onSymbol hmatched, ih hpart hentry.onSymbol hmatched⟩
    · intro part hpart entry hentry hfailed
      exact fails_of_run ((hgrammar.call hpart).imp hproperty) hentry.onSymbol hfailed

end Descent.Grammar
