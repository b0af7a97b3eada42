import Descent.Proofs.Grammar.Anchoring
import Descent.Proofs.Grammar.Entries
import Descent.Proofs.Parser.Events

/-!
# Traces

What a run reports, said for every form of grammar by the events and outcomes of
the runs of its parts (`Traced`). A choice reports each alternative that fails,
behind the events of that alternative; a repetition reports too few matches
behind the events of all its rounds; a chain reports a link that it gives back.
The other forms report nothing of their own.

Every run that ends has the trace that is said of it (`Returns.traced`), and in
it the whole trace of whatever was run on the way (`Returns.kept`). Runs may be of
any depth, and leaves and revisions may do anything.
-/

namespace Descent.Grammar

/-- The run of a grammar at a cursor ends, and this is it. -/
def Returns (rules : Rules) (grammar : Grammar) (cursor : Cursor) (run : Run Value) : Prop :=
  (∃ depth, grammar.run rules depth cursor = run) ∧ run.outcome ≠ .unfinished

inductive Row (rules : Rules) : List Grammar → Cursor → List Event → List Value → Cursor → Prop
  | nil : Row rules [] cursor [] [] cursor
  | cons : Returns rules part cursor trial → trial.outcome = .matched value middle →
      Row rules later middle events values rest →
      Row rules (part :: later) cursor (trial.events ++ events) (value :: values) rest

/-- Grammars that are run one behind the other until one of them fails, with the events of all that
were run. -/
inductive Tries (rules : Rules) : List Grammar → Cursor → List Event → Prop
  | nil : Tries rules [] cursor []
  | matched : Returns rules part cursor trial → trial.outcome = .matched value middle →
      Tries rules later middle events → Tries rules (part :: later) cursor (trial.events ++ events)
  | failed : Returns rules part cursor trial → trial.outcome = .failed cause →
      Tries rules (part :: later) cursor trial.events

/-- Alternatives that are tried from one cursor, numbered from `number`, until one of them matches.
The report that one failed stands behind the events of its run and before those of the next. -/
inductive Chooses (rules : Rules) (cursor : Cursor) :
    Nat → List Grammar → Outcome Value → List Event → Prop
  | nil : Chooses rules cursor number []
      (.failed (.composite cursor (.noAlternative cursor.index))) []
  | matched : Returns rules part cursor trial → trial.outcome = .matched value rest →
      Chooses rules cursor number (part :: later) (.matched value rest) trial.events
  | failed : Returns rules part cursor trial → trial.outcome = .failed cause →
      Chooses rules cursor (number + 1) later outcome events →
      Chooses rules cursor number (part :: later) outcome
        (trial.events ++ .alternativeFailed number cause :: events)

/-- What ends a chain at a cursor: a link that fails there, or one that matches and has no item
behind it. Only the second is reported, at the cursor before the link. -/
inductive Ends (rules : Rules) (link item : Grammar) (dangling : Nat → Event) (rest : Cursor) :
    List Event → Prop
  | failed : Returns rules link rest trial → trial.outcome = .failed cause →
      Ends rules link item dangling rest trial.events
  | dangling : Returns rules link rest trial → trial.outcome = .matched value middle →
      Returns rules item middle last → last.outcome = .failed cause →
      Ends rules link item dangling rest (trial.events ++ last.events ++ [dangling rest.index])

inductive Links : Grammar → Grammar → Grammar → (Nat → Reason) → (Nat → Event) → Prop
  | interpose : Links (.interpose item separator) item separator .noItem .danglingSeparator
  | chainl : Links (.chainl operand operator fold) operand operator .noOperand .danglingOperator

def Repeats : Grammar → Prop
  | .many _ _ | .interpose _ _ | .chainl _ _ _ => True
  | _ => False

/-- What a grammar comes to and reports at a cursor. -/
inductive Traced (rules : Rules) : Grammar → Cursor → Outcome Value → List Event → Prop
  | primitive : grammar.Primitive → Traced rules grammar cursor outcome []
  | parts : Unrolls rules grammar all → ¬grammar.Repeats → Tries rules all cursor events →
      Traced rules grammar cursor outcome events
  | revised : Returns rules body cursor trial →
      Traced rules (.mapState body revision) cursor outcome trial.events
  | choose : Chooses rules cursor 0 alternatives outcome events →
      Traced rules (.choose alternatives) cursor outcome events
  | many_enough : Row rules (List.replicate values.length body) cursor events values rest →
      Returns rules body rest last → last.outcome = .failed cause → least ≤ values.length →
      Traced rules (.many body least) cursor (.matched (.list values) rest) (events ++ last.events)
  | many_few : Row rules (List.replicate values.length body) cursor events values rest →
      Returns rules body rest last → last.outcome = .failed cause → values.length < least →
      Traced rules (.many body least) cursor
        (.failed (.composite cursor (.tooFew cursor.index least values.length)))
        (events ++ last.events ++ [.belowMinimum cursor.index values.length least])
  | chain_failed : Links grammar item link reason dangling → Returns rules item cursor trial →
      trial.outcome = .failed cause →
      Traced rules grammar cursor (.failed (.composite cursor (reason cursor.index))) trial.events
  | chain_matched : Links grammar item link reason dangling →
      Row rules (item :: (List.replicate rounds [link, item]).flatten) cursor events values rest →
      Builds grammar values value → Ends rules link item dangling rest ending →
      Traced rules grammar cursor (.matched value rest) (events ++ ending)

variable {rules : Rules} {grammar body : Grammar} {all alternatives : List Grammar}
  {cursor rest : Cursor} {trial trial' : Run Value} {part : Grammar → Parser Value}

theorem Returns.unique (h : Returns rules grammar cursor trial)
    (h' : Returns rules grammar cursor trial') : trial = trial' := by
  obtain ⟨⟨depth, rfl⟩, hends⟩ := h
  obtain ⟨⟨depth', rfl⟩, hends'⟩ := h'
  exact run_eq_run hends hends'

-- ---------------------------------------------------------------------------
-- One level
-- ---------------------------------------------------------------------------

theorem leaf_events (function : Leaf) (cursor : Cursor) : (function.parser cursor).events = [] := by
  simp only [Leaf.parser, Parser.here_bind]
  cases function cursor <;> rfl

def Runners (rules : Rules) (part : Grammar → Parser Value) : Prop :=
  ∀ grammar cursor, (part grammar cursor).outcome ≠ .unfinished →
    Returns rules grammar cursor (part grammar cursor)

theorem Runners.matched (h : Runners rules part)
    (hmatched : (part grammar cursor).outcome = .matched value rest) :
    Returns rules grammar cursor (part grammar cursor) := h grammar cursor (by simp [hmatched])

theorem Runners.failed (h : Runners rules part)
    (hfailed : (part grammar cursor).outcome = .failed cause) :
    Returns rules grammar cursor (part grammar cursor) := h grammar cursor (by simp [hfailed])

section
variable (hpart : Runners rules part)
include hpart

theorem tries_each (h : (Parser.each (all.map part) cursor).outcome ≠ .unfinished) :
    Tries rules all cursor (Parser.each (all.map part) cursor).events := by
  induction all generalizing cursor with
  | nil => exact .nil
  | cons first later ih =>
    rw [List.map_cons, Parser.each_cons_events]
    rw [List.map_cons, Parser.each, Parser.bind_outcome] at h
    cases houtcome : (part first cursor).outcome with
    | matched value middle =>
      refine .matched (hpart.matched houtcome) houtcome (ih fun hlater => h ?_)
      rw [houtcome]
      exact Parser.bind_unfinished.mpr (.inl hlater)
    | failed cause =>
      rw [List.append_nil]
      exact .failed (hpart.failed houtcome) houtcome
    | unfinished => exact absurd (by rw [houtcome]) h

theorem chooses_firstOf
    (h : (Parser.firstOf number (alternatives.map part) cursor).outcome ≠ .unfinished) :
    Chooses rules cursor number alternatives
      (Parser.firstOf number (alternatives.map part) cursor).outcome
      (Parser.firstOf number (alternatives.map part) cursor).events := by
  induction alternatives generalizing number with
  | nil => exact .nil
  | cons first later ih =>
    rw [List.map_cons] at h ⊢
    rw [Parser.firstOf_cons_events]
    rw [Parser.firstOf, Parser.onFailure_outcome] at h ⊢
    cases houtcome : (part first cursor).outcome with
    | matched value rest =>
      rw [List.append_nil]
      exact .matched (hpart.matched houtcome) houtcome
    | failed cause =>
      refine .failed (hpart.failed houtcome) houtcome (ih fun hlater => h ?_)
      rw [houtcome]
      exact hlater
    | unfinished => exact absurd (by rw [houtcome]) h

theorem row_star {values : List Value}
    (h : (Parser.star limit (part body) cursor).outcome = .matched values rest) :
    ∃ events last cause, Row rules (List.replicate values.length body) cursor events values rest ∧
      Returns rules body rest last ∧ last.outcome = .failed cause ∧
      (Parser.star limit (part body) cursor).events = events ++ last.events := by
  induction limit generalizing cursor values with
  | zero => cases h
  | succ limit ih =>
    rw [Parser.star_succ_events]
    obtain ⟨⟨cause, hfailed⟩, rfl, rfl⟩ | ⟨value, middle, later, hvalue, hlater, rfl⟩ :=
      Parser.star_succ_matched.mp h
    · refine ⟨[], _, cause, .nil, hpart.failed hfailed, hfailed, ?_⟩
      rw [hfailed, List.append_nil, List.nil_append]
    · obtain ⟨events, last, cause, hrow, hlast, hfailed, hevents⟩ := ih hlater
      refine ⟨_, last, cause, .cons (hpart.matched hvalue) hvalue hrow, hlast, hfailed, ?_⟩
      simp only [hvalue, hevents, List.append_assoc]

theorem ends_linked {link item : Grammar} {parser : Parser β} {f : Value → β}
    (houtcome : ∀ cursor, (parser cursor).outcome = (part link cursor).outcome.map f)
    (hevents : ∀ cursor, (parser cursor).events = (part link cursor).events)
    (h : (Parser.linked dangling parser (part item) cursor).outcome = .failed cause) :
    Ends rules link item dangling cursor
      (Parser.linked dangling parser (part item) cursor).events := by
  rw [Parser.linked_events, hevents]
  have hparser := Parser.linked_failed.mp h
  rw [houtcome] at hparser ⊢
  cases hlink : (part link cursor).outcome with
  | matched value middle =>
    simp only [hlink, Outcome.map, reduceCtorEq, false_or, Outcome.matched.injEq] at hparser
    obtain ⟨_, _, ⟨rfl, rfl⟩, hitem⟩ := hparser
    simp only [Outcome.map, hitem]
    rw [← List.append_assoc]
    exact .dangling (hpart.matched hlink) hlink (hpart.failed hitem) hitem
  | failed cause =>
    simp only [Outcome.map, List.append_nil]
    exact .failed (hpart.failed hlink) hlink
  | unfinished =>
    simp [hlink, Outcome.map] at hparser

/-- Rounds of a link and an item, up to the round that has none. The link may be run through a
function of its value. -/
theorem row_star_linked {link item : Grammar} {parser : Parser β} {f : Value → β}
    {joined : List (β × Value)}
    (houtcome : ∀ cursor, (parser cursor).outcome = (part link cursor).outcome.map f)
    (hevents : ∀ cursor, (parser cursor).events = (part link cursor).events)
    (h : (Parser.star limit (Parser.linked dangling parser (part item)) cursor).outcome =
      .matched joined rest) :
    ∃ (pairs : List (Value × Value)) (events ending : List Event),
      joined = pairs.map (fun (link, value) => (f link, value)) ∧
      Row rules (List.replicate pairs.length [link, item]).flatten cursor events
        (pairs.flatMap fun (link, value) => [link, value]) rest ∧
      Ends rules link item dangling rest ending ∧
      (Parser.star limit (Parser.linked dangling parser (part item)) cursor).events =
        events ++ ending := by
  induction limit generalizing cursor joined with
  | zero => cases h
  | succ limit ih =>
    rw [Parser.star_succ_events]
    obtain ⟨⟨cause, hfailed⟩, rfl, rfl⟩ | ⟨pair, middle, later, hpair, hlater, rfl⟩ :=
      Parser.star_succ_matched.mp h
    · refine ⟨[], [], _, rfl, .nil, ends_linked hpart houtcome hevents hfailed, ?_⟩
      simp only [hfailed, List.append_nil, List.nil_append]
    · -- One round more: its events stand before those of the later rounds, which end the same way.
      obtain ⟨stop, hparser, hitem⟩ := Parser.linked_matched.mp hpair
      have hlinked := Parser.linked_events dangling parser (part item) cursor
      simp only [hparser, hitem, hevents, List.append_nil] at hlinked
      obtain ⟨pairs, events, ending, rfl, hrow, hends, hstar⟩ := ih hlater
      rw [houtcome] at hparser
      obtain ⟨value, hlink, hvalue⟩ := Outcome.map_matched.mp hparser
      have hround : Row rules (link :: item :: (List.replicate pairs.length [link, item]).flatten)
          cursor ((part link cursor).events ++ ((part item stop).events ++ events))
          (value :: pair.2 :: pairs.flatMap fun (link, value) => [link, value]) rest :=
        .cons (hpart.matched hlink) hlink (.cons (hpart.matched hitem) hitem hrow)
      refine ⟨(value, pair.2) :: pairs, _, ending, ?_, hround, hends, ?_⟩
      · simp only [List.map_cons, hvalue]
      · simp only [hpair, hlinked, hstar, List.append_assoc]

theorem traced_many (h : (Parser.many limit least (part body) cursor).outcome ≠ .unfinished) :
    Traced rules (.many body least) cursor
      ((Parser.many limit least (part body) cursor).outcome.map .list)
      (Parser.many limit least (part body) cursor).events := by
  rw [Parser.many_events]
  rw [Parser.many_outcome] at h ⊢
  cases hstar : (Parser.star limit (part body) cursor).outcome with
  | matched values rest =>
    obtain ⟨events, last, cause, hrow, hlast, hfailed, hevents⟩ := row_star hpart hstar
    simp only [hevents]
    split
    · exact .many_few hrow hlast hfailed ‹_›
    · rw [List.append_nil]
      exact .many_enough hrow hlast hfailed (Nat.not_lt.mp ‹_›)
  | failed cause => exact absurd hstar Parser.star_not_failed
  | unfinished => exact absurd (by rw [hstar]) h

theorem traced_chain {link item : Grammar} {parser : Parser β} {f : Value → β}
    {build : Value × List (β × Value) → Value} (hlinks : Links grammar item link reason dangling)
    (houtcome : ∀ cursor, (parser cursor).outcome = (part link cursor).outcome.map f)
    (hevents : ∀ cursor, (parser cursor).events = (part link cursor).events)
    (hbuild : ∀ first (pairs : List (Value × Value)),
      Builds grammar (first :: pairs.flatMap fun (link, value) => [link, value])
        (build (first, pairs.map fun (link, value) => (f link, value))))
    (h : (Parser.chain limit reason dangling (part item) parser cursor).outcome ≠ .unfinished) :
    Traced rules grammar cursor
      ((Parser.chain limit reason dangling (part item) parser cursor).outcome.map build)
      (Parser.chain limit reason dangling (part item) parser cursor).events := by
  rw [Parser.chain_events]
  rw [Parser.chain_outcome] at h ⊢
  cases hitem : (part item cursor).outcome with
  | matched first middle =>
    simp only [hitem] at h ⊢
    cases hstar :
      (Parser.star limit (Parser.linked dangling parser (part item)) middle).outcome with
    | matched joined rest =>
      obtain ⟨pairs, events, ending, rfl, hrow, hends, hstar⟩ :=
        row_star_linked hpart houtcome hevents hstar
      rw [hstar, ← List.append_assoc]
      have hfirst := Row.cons (hpart.matched hitem) hitem hrow
      exact .chain_matched hlinks hfirst (hbuild first pairs) hends
    | failed cause => exact absurd hstar Parser.star_not_failed
    | unfinished => exact absurd (by rw [hstar]; rfl) h
  | failed cause =>
    rw [List.append_nil]
    exact .chain_failed hlinks (hpart.failed hitem) hitem
  | unfinished => exact absurd (by rw [hitem]) h

theorem tries_single (h : (part body cursor).outcome ≠ .unfinished) :
    Tries rules [body] cursor (part body cursor).events := by
  have hreturns := hpart body cursor h
  cases hbody : (part body cursor).outcome with
  | matched value rest =>
    rw [← List.append_nil (part body cursor).events]
    exact .matched hreturns hbody .nil
  | failed cause => exact .failed hreturns hbody
  | unfinished => exact absurd hbody h

theorem traced_assemble
    (h : (assemble rules limit part grammar cursor).outcome ≠ .unfinished) :
    Traced rules grammar cursor (assemble rules limit part grammar cursor).outcome
      (assemble rules limit part grammar cursor).events := by
  cases grammar with
  | character expected | literal expected | pattern searched =>
    simp only [assemble, Parser.map_events, Parser.character_events, Parser.literal_events,
      Parser.pattern_events]
    exact .primitive trivial
  | leaf function =>
    simp only [assemble, leaf_events]
    exact .primitive trivial
  | tuple all | list all =>
    simp only [assemble, ne_eq, Parser.map_unfinished, Parser.sequence_unfinished] at h
    simp only [assemble, Parser.map_events, Parser.sequence, Parser.anchored_events]
    exact .parts (by constructor) id (tries_each hpart h)
  | choose alternatives => exact .choose (chooses_firstOf hpart h)
  | many body least =>
    simp only [assemble, ne_eq, Parser.map_unfinished] at h
    simp only [assemble, Parser.map_outcome, Parser.map_events]
    exact traced_many hpart h
  | interpose item separator =>
    simp only [assemble, ne_eq, Parser.map_unfinished, Parser.interpose_unfinished] at h
    simp only [assemble, Parser.map_outcome, Parser.interpose_outcome, Outcome.map_map,
      Parser.map_events, Parser.interpose_events]
    refine traced_chain (f := id) hpart .interpose (fun _ => (Outcome.map_id _).symm)
      (fun _ => rfl) (fun first pairs => ?_) h
    simpa using Builds.interpose
  | chainl operand operator fold =>
    simp only [assemble, ne_eq, Parser.chainl_unfinished] at h
    simp only [assemble, Parser.chainl_outcome, Parser.chainl_events]
    refine traced_chain hpart .chainl (Parser.map_outcome _ fold) (Parser.map_events fold _)
      (fun first pairs => ?_) h
    simpa only [List.foldl_map] using Builds.chainl
  | between opening closing inner =>
    simp only [assemble, ne_eq, Parser.between_unfinished] at h
    simp only [assemble, Parser.between_events]
    have htries : Tries rules [opening, inner, closing] cursor _ := tries_each hpart h
    exact .parts .between id htries
  | optional body =>
    simp only [assemble, ne_eq, Parser.map_unfinished, Parser.optional_unfinished] at h
    simp only [assemble, Parser.map_events, Parser.optional_events]
    exact .parts .optional id (tries_single hpart h)
  | map body mapping =>
    simp only [assemble, ne_eq, Parser.map_unfinished] at h
    simp only [assemble, Parser.map_events]
    exact .parts .map id (tries_single hpart h)
  | mapState body revision =>
    simp only [assemble, ne_eq, Parser.mapState_unfinished] at h
    simp only [assemble, Parser.mapState_events]
    exact .revised (hpart body cursor h)
  | filter body test message =>
    simp only [assemble, ne_eq, Parser.filter_unfinished] at h
    simp only [assemble, Parser.filter_events]
    exact .parts .filter id (tries_single hpart h)
  | indexed body =>
    simp only [assemble, ne_eq, Parser.map_unfinished, Parser.indexed_unfinished] at h
    simp only [assemble, Parser.map_events, Parser.indexed_events]
    exact .parts .indexed id (tries_single hpart h)
  | rule name =>
    simp only [assemble] at h ⊢
    cases hbody : rules.lookup name with
    | none => simp [hbody] at h
    | some body =>
      rw [hbody] at h
      exact .parts (.rule hbody) id (tries_single hpart h)

end

theorem Returns.traced (h : Returns rules grammar cursor trial) :
    Traced rules grammar cursor trial.outcome trial.events := by
  obtain ⟨⟨depth, rfl⟩, hends⟩ := h
  cases depth with
  | zero => exact absurd rfl hends
  | succ depth =>
    have hpart : Runners rules (run rules depth) := fun _ _ hends => ⟨⟨depth, rfl⟩, hends⟩
    rw [run_succ] at hends ⊢
    exact traced_assemble hpart hends

-- ---------------------------------------------------------------------------
-- What is run is not forgotten
-- ---------------------------------------------------------------------------

def ReturnsMatch (rules : Rules) (grammar : Grammar) (cursor : Cursor) (value : Value)
    (rest : Cursor) : Prop :=
  ∃ trial, Returns rules grammar cursor trial ∧ trial.outcome = .matched value rest

def ReturnsFailure (rules : Rules) (grammar : Grammar) (cursor : Cursor) : Prop :=
  ∃ trial cause, Returns rules grammar cursor trial ∧ trial.outcome = .failed cause

/-- The events of a run of the grammar at the cursor stand among the events, all together. -/
def Kept (rules : Rules) (grammar : Grammar) (cursor : Cursor) (events : List Event) : Prop :=
  ∃ trial, Returns rules grammar cursor trial ∧ trial.events <:+: events

theorem Kept.imp (h : Kept rules grammar cursor events) (himp : events <:+: events') :
    Kept rules grammar cursor events' := by
  obtain ⟨trial, hreturns, hinfix⟩ := h
  exact ⟨trial, hreturns, hinfix.trans himp⟩

theorem Tries.kept {inner : Grammar} (h : Tries rules (before ++ inner :: after) cursor events)
    (hbefore : Threaded (ReturnsMatch rules) before cursor values entry) :
    Kept rules inner entry events := by
  induction hbefore generalizing events with
  | nil =>
    cases h with
    | matched hreturns _ _ => exact ⟨_, hreturns, (List.prefix_append _ _).isInfix⟩
    | failed hreturns _ => exact ⟨_, hreturns, List.infix_rfl⟩
  | cons hfirst _ ih =>
    -- A grammar has one run at a cursor, so what was tried goes on where the match stopped.
    obtain ⟨trial, hreturns, hmatched⟩ := hfirst
    cases h with
    | matched hreturns' hmatched' hlater =>
      obtain rfl := hreturns.unique hreturns'
      obtain ⟨rfl, rfl⟩ := Outcome.matched.inj (hmatched.symm.trans hmatched')
      exact (ih hlater).imp (List.suffix_append _ _).isInfix
    | failed hreturns' hfailed =>
      obtain rfl := hreturns.unique hreturns'
      cases hmatched.symm.trans hfailed

theorem Chooses.kept {inner : Grammar}
    (h : Chooses rules cursor number (before ++ inner :: after) outcome events)
    (hbefore : ∀ earlier ∈ before, ReturnsFailure rules earlier cursor) :
    Kept rules inner cursor events := by
  induction before generalizing number events with
  | nil =>
    cases h with
    | matched hreturns _ => exact ⟨_, hreturns, List.infix_rfl⟩
    | failed hreturns _ _ => exact ⟨_, hreturns, (List.prefix_append _ _).isInfix⟩
  | cons first before ih =>
    obtain ⟨⟨trial, cause, hreturns, hfailed⟩, hlater⟩ := List.forall_mem_cons.mp hbefore
    cases h with
    | matched hreturns' hmatched =>
      obtain rfl := hreturns.unique hreturns'
      cases hfailed.symm.trans hmatched
    | failed _ _ h =>
      exact (ih h hlater).imp ((List.suffix_cons _ _).trans (List.suffix_append _ _)).isInfix

theorem Row.tries {inner : Grammar} (h : Row rules before cursor events values entry)
    (hreturns : Returns rules inner entry trial) (hfailed : trial.outcome = .failed cause)
    (after : List Grammar) :
    Tries rules (before ++ inner :: after) cursor (events ++ trial.events) := by
  induction h with
  | nil => exact .failed hreturns hfailed
  | cons hfirst hmatched _ ih =>
    rw [List.append_assoc]
    exact .matched hfirst hmatched (ih hreturns)

theorem Row.append (h : Row rules before cursor events values middle)
    (hlater : Row rules after middle events' values' rest) :
    Row rules (before ++ after) cursor (events ++ events') (values ++ values') rest := by
  induction h with
  | nil => exact hlater
  | cons hfirst hmatched _ ih =>
    rw [List.append_assoc]
    exact .cons hfirst hmatched (ih hlater)

theorem replicate_rounds (round : α) (rounds rounds' : Nat) :
    List.replicate rounds' round ++ List.replicate (rounds + 1) round =
      List.replicate rounds round ++ round :: List.replicate rounds' round := by
  rw [← List.replicate_succ, List.replicate_append_replicate, List.replicate_append_replicate]
  congr 1
  omega

theorem Row.tries_rounds (h : Row rules (List.replicate found body) cursor events values rest)
    (hreturns : Returns rules body rest trial) (hfailed : trial.outcome = .failed cause)
    (rounds : Nat) :
    Tries rules (List.replicate rounds body ++ List.replicate (found + 1) body) cursor
      (events ++ trial.events) := by
  rw [replicate_rounds]
  exact h.tries hreturns hfailed _

theorem Ends.tries {link item : Grammar} {dangling : Nat → Event}
    (h : Ends rules link item dangling rest ending)
    (hrow : Row rules before cursor events values rest) (after : List Grammar) :
    ∃ tried, Tries rules (before ++ ([link, item] ++ after)) cursor tried ∧
      tried <+: events ++ ending := by
  cases h with
  | failed hlink hfailed => exact ⟨_, hrow.tries hlink hfailed (item :: after), List.prefix_rfl⟩
  | dangling hlink hmatched hitem hfailed =>
    have hlinked := (hrow.append (.cons hlink hmatched .nil)).tries hitem hfailed after
    refine ⟨_, by simpa using hlinked, ?_⟩
    simp

theorem Ends.tries_rounds {link item : Grammar} {dangling : Nat → Event}
    (h : Ends rules link item dangling rest ending)
    (hrow : Row rules (item :: (List.replicate found [link, item]).flatten) cursor events values
      rest) (rounds : Nat) :
    ∃ more tried, Tries rules (item :: (List.replicate rounds [link, item]).flatten ++ more) cursor
      tried ∧ tried <+: events ++ ending := by
  obtain ⟨tried, htries, hprefix⟩ := h.tries hrow (List.replicate rounds [link, item]).flatten
  have hrounds := congrArg List.flatten (replicate_rounds [link, item] found rounds)
  rw [List.flatten_append, List.flatten_append, List.flatten_cons] at hrounds
  rw [List.cons_append, ← hrounds, ← List.cons_append] at htries
  exact ⟨_, tried, htries, hprefix⟩

theorem Unrolls.unique {all' : List Grammar} (h : Unrolls rules grammar all)
    (h' : Unrolls rules grammar all') (hfixed : ¬grammar.Repeats) : all = all' := by
  cases h with
  | many | interpose | chainl => exact absurd trivial hfixed
  | rule hbody =>
    cases h' with
    | rule hbody' => rw [Option.some.inj (hbody.symm.trans hbody')]
  | _ =>
    cases h'
    rfl

theorem Links.exists_rounds (hlinks : Links grammar item link reason dangling)
    (h : Unrolls rules grammar all) :
    ∃ rounds, all = item :: (List.replicate rounds [link, item]).flatten := by
  cases hlinks <;> cases h <;> exact ⟨_, rfl⟩

theorem Traced.tries (h : Traced rules grammar cursor outcome events)
    (hunrolls : Unrolls rules grammar all) :
    ∃ more tried, Tries rules (all ++ more) cursor tried ∧ tried <+: events := by
  cases h with
  | primitive hprimitive => cases hunrolls <;> exact hprimitive.elim
  | parts hunrolls' hfixed htries =>
    obtain rfl := hunrolls.unique hunrolls' hfixed
    exact ⟨[], _, by rwa [List.append_nil], List.prefix_rfl⟩
  | revised => cases hunrolls
  | choose => cases hunrolls
  | many_enough hrow hlast hfailed _ | many_few hrow hlast hfailed _ =>
    cases hunrolls with
    | many rounds => exact ⟨_, _, hrow.tries_rounds hlast hfailed rounds, by simp⟩
  | chain_failed hlinks hitem hfailed =>
    obtain ⟨rounds, rfl⟩ := hlinks.exists_rounds hunrolls
    exact ⟨[], _, .failed hitem hfailed, List.prefix_rfl⟩
  | chain_matched hlinks hrow _ hends =>
    obtain ⟨rounds, rfl⟩ := hlinks.exists_rounds hunrolls
    exact hends.tries_rounds hrow rounds

theorem Traced.kept {inner : Grammar} (h : Traced rules grammar cursor outcome events)
    (henters : Enters rules (ReturnsMatch rules) (ReturnsFailure rules) grammar cursor inner
      entry) : Kept rules inner entry events := by
  cases henters with
  | behind hunrolls hbefore =>
    obtain ⟨more, tried, htries, hprefix⟩ := h.tries hunrolls
    rw [List.append_assoc, List.cons_append] at htries
    exact (htries.kept hbefore).imp hprefix.isInfix
  | alternative hbefore =>
    cases h with
    | choose hchooses => exact hchooses.kept hbefore
    | primitive hprimitive => exact hprimitive.elim
    | parts hunrolls | chain_failed hunrolls | chain_matched hunrolls => cases hunrolls
  | revised =>
    cases h with
    | revised hbody => exact ⟨_, hbody, List.infix_rfl⟩
    | primitive hprimitive => exact hprimitive.elim
    | parts hunrolls | chain_failed hunrolls | chain_matched hunrolls => cases hunrolls

/-- What a run comes to run on all levels, and where; itself among them. -/
def Reaches (rules : Rules) : Grammar × Cursor → Grammar × Cursor → Prop :=
  Relation.ReflTransGen fun outer inner =>
    Enters rules (ReturnsMatch rules) (ReturnsFailure rules) outer.1 outer.2 inner.1 inner.2

theorem Returns.kept {inner : Grammar × Cursor} (h : Returns rules grammar cursor trial)
    (hreaches : Reaches rules (grammar, cursor) inner) :
    Kept rules inner.1 inner.2 trial.events := by
  induction hreaches with
  | refl => exact ⟨trial, h, List.infix_rfl⟩
  | tail _ henters ih =>
    obtain ⟨outer, houter, hinfix⟩ := ih
    exact (houter.traced.kept henters).imp hinfix

theorem parse_eq (rules : Rules) (grammar : Grammar) (source : Text) :
    grammar.parse rules source =
      Parser.parse (grammar.run rules (grammar.depthFor rules source)) source := rfl

/-- Every run that ends reports what its grammar and the runs of its parts say, and keeps the events
of whatever it ran on any level, given up or not. The entry point puts its bounds and the report of
the outcome around them, at any depth too. -/
theorem trace_follows_run (rules : Rules) (grammar : Grammar) :
    (∀ cursor trial, Returns rules grammar cursor trial →
      Traced rules grammar cursor trial.outcome trial.events ∧
        ∀ inner entry, Reaches rules (grammar, cursor) (inner, entry) →
          Kept rules inner entry trial.events) ∧
    (∀ depth source, (Parser.parse (grammar.run rules depth) source).outcome ≠ .unfinished →
      ∃ trial, Returns rules grammar (.start source) trial ∧
        (Parser.parse (grammar.run rules depth) source).outcome = trial.outcome ∧
        (Parser.parse (grammar.run rules depth) source).events =
          .opened source.byteSize :: trial.events ++ trial.outcome.report ++ [.closed]) := by
  refine ⟨fun cursor trial h => ⟨h.traced, fun inner entry => h.kept⟩, fun depth source hends => ?_⟩
  exact ⟨grammar.run rules depth (.start source), ⟨⟨depth, rfl⟩, hends⟩, rfl, rfl⟩

def letters : Grammar :=
  .choose [.many (.character 'b') 1, .interpose (.character 'a') (.character ',')]

def lettersRun : Run Value where
  events := [.belowMinimum 0 0 1,
    .alternativeFailed 0 (.composite (.start "a,a,b".toList) (.tooFew 0 1 0)), .danglingSeparator 3]
  outcome := .matched (.list [.char 'a', .char ',', .char 'a']) ⟨"a,a,b".toList, 3⟩

theorem trace_follows_run_dangling :
    Traced [] letters (.start "a,a,b".toList) lettersRun.outcome lettersRun.events ∧
      Kept [] (.many (.character 'b') 1) (.start "a,a,b".toList) lettersRun.events ∧
      ∃ trial, Returns [] letters (.start "a,a,b".toList) trial ∧
        (letters.parse [] "a,a,b".toList).outcome = trial.outcome ∧
        (letters.parse [] "a,a,b".toList).events =
          .opened (Text.byteSize "a,a,b".toList) :: trial.events ++ trial.outcome.report ++
            [.closed] := by
  have hrun : letters.run [] 6 (.start "a,a,b".toList) = lettersRun := by cbv
  have houtcome : (letters.parse [] "a,a,b".toList).outcome = lettersRun.outcome := by cbv
  have hends : lettersRun.outcome ≠ .unfinished := by simp [lettersRun]
  have henters : Enters [] (ReturnsMatch []) (ReturnsFailure []) letters (.start "a,a,b".toList)
      (.many (.character 'b') 1) (.start "a,a,b".toList) := .first_alternative
  obtain ⟨hruns, hparse⟩ := trace_follows_run [] letters
  obtain ⟨htraced, hkept⟩ := hruns (.start "a,a,b".toList) lettersRun ⟨⟨6, hrun⟩, hends⟩
  rw [parse_eq] at houtcome ⊢
  exact ⟨htraced, hkept _ _ (.single henters), hparse _ _ (by rwa [houtcome])⟩

end Descent.Grammar
