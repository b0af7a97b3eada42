import Descent.Proofs.Grammar.Anchoring
import Descent.Proofs.Grammar.Entries
import Descent.Proofs.Grammar.Nullable
import Descent.Proofs.Grammar.Safety
import Descent.Proofs.Grammar.Spans

/-!
# Where messages come from

A grammar that fails either gives a reason of its own (`Raises`), or a part of it
failed and it fails for the reason of that part, as sequences do and all that
wrap one grammar (`Relays`). On the way a failure is moved to the entry and keeps
its reason. So the message of every failure is that of one part, run behind the
parts before it in the sequences around it (`Blames`), and the byte that it names
is the one where that part was run, wherever the failure is reported.
-/

namespace Descent.Grammar

/-- The grammar gives a reason of its own to fail, in terms of how grammars match and fail. -/
inductive Raises (matched : Grammar → Cursor → Value → Cursor → Prop)
    (failed : Grammar → Cursor → Prop) : Grammar → Cursor → Reason → Prop
  | character : cursor.current ≠ some expected →
      Raises matched failed (.character expected) cursor
        (.character expected cursor.current cursor.index)
  | literal : ¬expected <+: cursor.remainder →
      Raises matched failed (.literal expected) cursor
        (.literal expected (cursor.remainder.take expected.length) cursor.index)
  | pattern : searched.matchStart? cursor.remainder = none →
      Raises matched failed (.pattern searched) cursor (.pattern searched.shown cursor.index)
  | choose : (∀ alternative ∈ alternatives, failed alternative cursor) →
      Raises matched failed (.choose alternatives) cursor (.noAlternative cursor.index)
  | many : Threaded matched (List.replicate found body) cursor values rest → failed body rest →
      found < least →
      Raises matched failed (.many body least) cursor (.tooFew cursor.index least found)
  | interpose : failed item cursor →
      Raises matched failed (.interpose item separator) cursor (.noItem cursor.index)
  | chainl : failed operand cursor →
      Raises matched failed (.chainl operand operator fold) cursor (.noOperand cursor.index)
  | filter : matched body cursor value rest → test value = false →
      Raises matched failed (.filter body test message) cursor (.said message)

def Relaying : Grammar → Prop
  | .tuple _ | .list _ | .between _ _ _ | .map _ _ | .filter _ _ _ | .indexed _ | .rule _ => True
  | _ => False

/-- The part that a grammar comes to, behind the parts before it, and for whose reason it fails. -/
inductive Relays (rules : Rules) (matched : Grammar → Cursor → Value → Cursor → Prop)
    (grammar : Grammar) (cursor : Cursor) (part : Grammar) (entry : Cursor) : Prop
  | behind : grammar.Relaying → Unrolls rules grammar (before ++ part :: after) →
      Threaded matched before cursor values entry → Relays rules matched grammar cursor part entry

def Descends (rules : Rules) : Grammar × Cursor → Grammar × Cursor → Prop :=
  Relation.ReflTransGen fun outer inner =>
    Relays rules (Matches rules) outer.1 outer.2 inner.1 inner.2

variable {rules : Rules} {grammar : Grammar} {source : Text} {cursor : Cursor} {reason : Reason}
  {failure : Failure} {matched : Grammar → Cursor → Value → Cursor → Prop}

theorem Relays.first {inner : Grammar} (hrelaying : grammar.Relaying)
    (hunrolls : Unrolls rules grammar (inner :: after)) :
    Relays rules matched grammar cursor inner cursor := by
  have hunrolls : Unrolls rules grammar ([] ++ inner :: after) := hunrolls
  exact .behind hrelaying hunrolls .nil

-- ---------------------------------------------------------------------------
-- One level
-- ---------------------------------------------------------------------------

section
variable {part : Grammar → Parser Value} {limit : Nat}

inductive Failing (rules : Rules) (part : Grammar → Parser Value) (grammar : Grammar)
    (cursor : Cursor) (reason : Reason) : Prop
  | raised : Raises (MatchedBy part) (FailedBy part) grammar cursor reason →
      Failing rules part grammar cursor reason
  | relayed {inner : Grammar} {cause : Failure} : Relays rules (MatchedBy part) grammar cursor inner entry →
      (part inner entry).outcome = .failed cause → cause.reason = reason →
      Failing rules part grammar cursor reason

theorem Failing.of_part {inner : Grammar} (hrelaying : grammar.Relaying)
    (hunrolls : Unrolls rules grammar (inner :: after))
    (h : (part inner cursor).outcome = .failed failure) :
    Failing rules part grammar cursor failure.reason := .relayed (.first hrelaying hunrolls) h rfl

theorem failing_of_each {all : List Grammar} (hrelaying : grammar.Relaying)
    (hunrolls : Unrolls rules grammar all)
    (h : (Parser.each (all.map part) cursor).outcome = .failed failure)
    (hreason : failure.reason = reason) : Failing rules part grammar cursor reason := by
  obtain ⟨before, _, after, values, entry, hall, hbefore, hfailed⟩ := Parser.each_failed.mp h
  obtain ⟨before, _, rfl, rfl, hlater⟩ := List.map_eq_append_iff.mp hall
  obtain ⟨inner, after, rfl, rfl, rfl⟩ := List.map_eq_cons_iff.mp hlater
  exact .relayed (.behind hrelaying hunrolls (threaded_of_threads hbefore)) hfailed hreason

theorem failing_of_sequence {all : List Grammar} (hrelaying : grammar.Relaying)
    (hunrolls : Unrolls rules grammar all)
    (h : (Parser.sequence (all.map part) cursor).outcome = .failed failure) :
    Failing rules part grammar cursor failure.reason := by
  obtain ⟨cause, hcause, rfl⟩ := Parser.sequence_failed.mp h
  exact failing_of_each hrelaying hunrolls hcause rfl

theorem assemble_failing (hplain : grammar.Plain)
    (h : (assemble rules limit part grammar cursor).outcome = .failed failure) :
    Failing rules part grammar cursor failure.reason := by
  cases grammar with
  | character expected =>
    obtain ⟨hcurrent, rfl⟩ := Parser.character_failed.mp (Parser.map_failed.mp h)
    exact .raised (.character hcurrent)
  | literal expected =>
    obtain ⟨hstarts, rfl⟩ := Parser.literal_failed.mp (Parser.map_failed.mp h)
    exact .raised (.literal hstarts)
  | pattern searched =>
    obtain ⟨hfound, rfl⟩ := Parser.pattern_failed.mp (Parser.map_failed.mp h)
    exact .raised (.pattern hfound)
  | leaf function => exact hplain.elim
  | tuple all => exact failing_of_sequence trivial .tuple (Parser.map_failed.mp h)
  | list all => exact failing_of_sequence trivial .list (Parser.map_failed.mp h)
  | choose alternatives =>
    obtain ⟨hall, rfl⟩ := Parser.choose_failed.mp h
    exact .raised (.choose fun alternative hmem => hall _ (List.mem_map_of_mem hmem))
  | optional body => exact absurd (Parser.map_failed.mp h) Parser.optional_not_failed
  | many body least =>
    obtain ⟨values, rest, hstar, hfew, rfl⟩ := Parser.many_failed.mp (Parser.map_failed.mp h)
    obtain ⟨-, hrounds, hend⟩ := Parser.star_matched.mp hstar
    rw [← List.map_replicate] at hrounds
    exact .raised (.many (threaded_of_threads hrounds) hend hfew)
  | interpose item separator =>
    obtain ⟨hitem, rfl⟩ := Parser.interpose_failed.mp (Parser.map_failed.mp h)
    exact .raised (.interpose hitem)
  | between opening closing inner =>
    obtain ⟨cause, hcause, rfl⟩ := Parser.between_failed.mp h
    have hcause : (Parser.each ([opening, inner, closing].map part) cursor).outcome =
        .failed cause := by
      simpa [Parser.each_cons_failed] using hcause
    exact failing_of_each trivial .between hcause rfl
  | chainl operand operator fold =>
    obtain ⟨hoperand, rfl⟩ := Parser.chainl_failed.mp h
    exact .raised (.chainl hoperand)
  | map body mapping => exact .of_part trivial .map (Parser.map_failed.mp h)
  | mapState body revision => exact hplain.elim
  | filter body test message =>
    obtain hbody | ⟨⟨value, rest, hbody, htest⟩, rfl⟩ := Parser.filter_failed.mp h
    · exact .of_part trivial .filter hbody
    · exact .raised (.filter hbody htest)
  | indexed body =>
    exact .of_part trivial .indexed (Parser.indexed_failed.mp (Parser.map_failed.mp h))
  | rule name =>
    cases hbody : rules.lookup name with
    | none => simp [assemble, hbody] at h
    | some body =>
      simp only [assemble, hbody] at h
      exact .of_part trivial (.rule hbody) h

end

-- ---------------------------------------------------------------------------
-- All levels
-- ---------------------------------------------------------------------------

theorem Threaded.of_run {all : List Grammar} (hall : ∀ part ∈ all, part.Every rules Stays)
    (hcursor : Cursor.On source cursor)
    (h : Threaded (MatchedBy (run rules depth)) all cursor values rest) :
    Threaded (Matches rules) all cursor values rest := by
  refine h.imp_on (Cursor.On source) ?_ hcursor
  intro part hpart entry value stop hentry hmatched
  exact ⟨run_keeps (hall part hpart) hentry hmatched,
    matches_of_run (hall part hpart) hentry.onSymbol hmatched⟩

theorem Relays.of_run {inner : Grammar} (hstays : grammar.Every rules Stays)
    (hcursor : Cursor.On source cursor)
    (h : Relays rules (MatchedBy (run rules depth)) grammar cursor inner entry) :
    Relays rules (Matches rules) grammar cursor inner entry := by
  obtain ⟨hrelaying, hunrolls, hbefore⟩ := h
  refine .behind hrelaying hunrolls (hbefore.of_run (fun part hpart => hstays.call ?_) hcursor)
  exact hunrolls.calls part (List.mem_append_left _ hpart)

theorem Raises.of_run (hstays : grammar.Every rules Stays) (hcursor : Cursor.On source cursor)
    (h : Raises (MatchedBy (run rules depth)) (FailedBy (run rules depth)) grammar cursor reason) :
    Raises (Matches rules) (Fails rules) grammar cursor reason := by
  have hfails : ∀ part ∈ grammar.calls rules, ∀ {entry}, Cursor.On source entry →
      FailedBy (run rules depth) part entry → Fails rules part entry :=
    fun part hpart _ hentry => fails_of_run (hstays.call hpart) hentry.onSymbol
  cases h with
  | character hcurrent => exact .character hcurrent
  | literal hstarts => exact .literal hstarts
  | pattern hfound => exact .pattern hfound
  | choose hall =>
    exact .choose fun alternative hmem => hfails _ hmem hcursor (hall alternative hmem)
  | many hrounds hend hfew =>
    have hbody := hstays.call List.mem_cons_self
    have hall : ∀ rounds, ∀ part ∈ List.replicate rounds _, Every rules Stays part :=
      fun _ part hpart => List.eq_of_mem_replicate hpart ▸ hbody
    have hrounds := hrounds.of_run (hall _) hcursor
    exact .many hrounds (hfails _ List.mem_cons_self (hrounds.on (hall _) hcursor) hend) hfew
  | interpose hitem => exact .interpose (hfails _ List.mem_cons_self hcursor hitem)
  | chainl hoperand => exact .chainl (hfails _ List.mem_cons_self hcursor hoperand)
  | filter hbody htest =>
    have hstays := hstays.call List.mem_cons_self
    exact .filter (matches_of_run hstays hcursor.onSymbol hbody) htest

theorem Relays.enters {inner : Grammar}
    (h : Relays rules (Matches rules) grammar cursor inner entry) :
    Enters rules (Matches rules) (Fails rules) grammar cursor inner entry := by
  obtain ⟨-, hunrolls, hbefore⟩ := h
  exact .behind hunrolls hbefore

theorem Relays.index_le {inner : Grammar} (hplain : grammar.Every rules Plain)
    (hcursor : cursor.OnSymbol)
    (h : Relays rules (Matches rules) grammar cursor inner entry) : cursor.index ≤ entry.index := by
  obtain ⟨-, hunrolls, hbefore⟩ := h
  refine (hbefore.imp_on Cursor.OnSymbol ?_ hcursor).forward
  intro part hpart place value stop hplace hmatched
  have hpart := hplain.call (hunrolls.calls part (List.mem_append_left _ hpart))
  obtain ⟨text, hreads, -⟩ := parser_moves hpart hplace hmatched
  exact ⟨hreads.onSymbol hplace, hreads.index_le⟩

theorem Descends.runs {outer inner : Grammar × Cursor} (h : Descends rules outer inner) :
    Runs rules outer inner := Relation.ReflTransGen.mono (fun _ _ => Relays.enters) _ _ h

theorem Descends.index_le {inner : Grammar × Cursor} (hplain : grammar.Every rules Plain)
    (hcursor : cursor.OnSymbol) (h : Descends rules (grammar, cursor) inner) :
    cursor.index ≤ inner.2.index := by
  induction h with
  | refl => exact Nat.le_refl _
  | tail houter hrelays ih =>
    have houter := Descends.runs houter
    have hmiddle := houter.on (hplain.imp fun _ => Plain.stays) (.rfl hcursor)
    exact ih.trans (hrelays.index_le (hplain.within houter.within) hmiddle.onSymbol)

/-- A part that is reached from a grammar and fails there, for a reason of its own. -/
structure Blames (rules : Rules) (grammar : Grammar) (cursor : Cursor) (part : Grammar)
    (entry : Cursor) (own : Failure) : Prop where
  descends : Descends rules (grammar, cursor) (part, entry)
  failed : (part.parser rules entry).outcome = .failed own
  raised : Raises (Matches rules) (Fails rules) part entry own.reason

theorem run_blames (hplain : grammar.Every rules Plain) (hcursor : Cursor.On source cursor)
    (h : (run rules depth grammar cursor).outcome = .failed failure) :
    ∃ part entry own, Blames rules grammar cursor part entry own ∧ own.reason = failure.reason := by
  induction depth generalizing grammar cursor failure with
  | zero => simp [run] at h
  | succ depth ih =>
    have hstays := hplain.imp fun _ => Plain.stays
    have hlevel := h
    rw [run_succ] at hlevel
    cases assemble_failing hplain.self hlevel with
    | raised hraises =>
      have hends : (run rules (depth + 1) grammar cursor).outcome ≠ .unfinished := by simp [h]
      have hfailed := parser_eq_run hstays hcursor.onSymbol hends ▸ h
      exact ⟨grammar, cursor, failure, ⟨.refl, hfailed, hraises.of_run hstays hcursor⟩, rfl⟩
    | relayed hrelays hfailed hreason =>
      -- the part failed at the depth below and was reached behind what precedes it
      have hrelays := hrelays.of_run hstays hcursor
      have hcalled := hrelays.enters.mem_calls
      have hentry := hrelays.enters.on hstays hcursor
      obtain ⟨part, entry, own, hblames, hown⟩ := ih (hplain.call hcalled) hentry hfailed
      exact ⟨part, entry, own, ⟨.head hrelays hblames.descends, hblames.failed, hblames.raised⟩,
        hown.trans hreason⟩

theorem Plain.failsAtEntry (h : grammar.Plain) : grammar.FailsAtEntry := by
  cases grammar with
  | leaf function => exact h.elim
  | mapState body revision => exact h.elim
  | _ => trivial

theorem failed_at_entry (hplain : grammar.Every rules Plain)
    (h : (grammar.parser rules cursor).outcome = .failed failure) : failure.cursor = cursor := by
  cases run_origin h with
  | combinator hcursor => exact hcursor
  | primitive hwithin hprimitive hfailed =>
    exact hprimitive.cursor_eq (hplain _ hwithin).failsAtEntry (hfailed 0)
  | revision hwithin => exact (hplain _ hwithin).elim

-- ---------------------------------------------------------------------------
-- Messages
-- ---------------------------------------------------------------------------

/-- The message names a byte, at its end or before a colon. -/
def NamesByte (message : Text) (index : Nat) : Prop :=
  ∃ before after, " at ".toList <:+ before ∧ message = before ++ Text.ofNat index ++ after ∧
    (after = [] ∨ after.head? = some ':')

theorem names_at_end (h : " at ".toList <:+ before) : NamesByte (before ++ Text.ofNat index) index :=
  ⟨before, [], h, (List.append_nil _).symm, .inl rfl⟩

theorem Raises.names {failed : Grammar → Cursor → Prop}
    (h : Raises matched failed grammar cursor reason) :
    (∃ body test, grammar = .filter body test reason.message) ∨
      NamesByte reason.message cursor.index := by
  have hquoted : ∀ text : Text, " at ".toList <:+ text ++ "' at ".toList :=
    fun text => .trans (by decide) (List.suffix_append text _)
  cases h with
  | character => exact .inr (names_at_end (hquoted _))
  | literal => exact .inr (names_at_end (hquoted _))
  | pattern => exact .inr (names_at_end (.trans (by decide) (List.suffix_append _ _)))
  | choose =>
    have hmarked : " at ".toList <:+ "choose failed to parse at ".toList := by decide
    exact .inr (names_at_end hmarked)
  | many =>
    have hmarked : " at ".toList <:+ "many failed to parse at ".toList := by decide
    have hsplit : ∀ a b c d e f : Text,
        a ++ b ++ c ++ d ++ e ++ f = a ++ b ++ (c ++ (d ++ (e ++ f))) := by simp
    exact .inr ⟨_, _, hmarked, hsplit _ _ _ _ _ _, .inr rfl⟩
  | interpose =>
    have hmarked : " at ".toList <:+ "interpose failed to parse at ".toList := by decide
    exact .inr (names_at_end hmarked)
  | chainl =>
    have hmarked : " at ".toList <:+ "chainl failed to parse at ".toList := by decide
    exact .inr (names_at_end hmarked)
  | filter => exact .inl ⟨_, _, rfl⟩

/-- Where a message stems from: a part of the grammar, where that was run and how it failed there. -/
structure StemsFrom (rules : Rules) (source : Text) (grammar : Grammar) (cursor : Cursor)
    (message : Text) (part : Grammar) (entry : Cursor) (own : Failure) : Prop
    extends Blames rules grammar cursor part entry own where
  within : Within rules grammar part
  on : Cursor.On source entry
  index_le : cursor.index ≤ entry.index
  le_byteSize : entry.index ≤ source.byteSize
  cursor_eq : own.cursor = entry
  message_eq : own.message = message
  names : (∃ body test, part = .filter body test message) ∨ NamesByte message entry.index

/-- A failure is reported at the entry, and its message is the one that a part gives where it is
run behind the parts before it. -/
theorem message_origin (hplain : grammar.Every rules Plain) (hcursor : Cursor.On source cursor)
    (h : (grammar.parser rules cursor).outcome = .failed failure) :
    failure.cursor = cursor ∧
      ∃ part entry own, StemsFrom rules source grammar cursor failure.message part entry own := by
  refine ⟨failed_at_entry hplain h, ?_⟩
  obtain ⟨part, entry, own, hblames, hreason⟩ := run_blames hplain hcursor h
  have hruns := hblames.descends.runs
  have hentry := hruns.on (hplain.imp fun _ => Plain.stays) hcursor
  have hmessage : own.message = failure.message := congrArg Reason.message hreason
  refine ⟨part, entry, own, { hblames with
    within := hruns.within
    on := hentry
    index_le := hblames.descends.index_le hplain hcursor.onSymbol
    le_byteSize := hentry.source ▸ hentry.onSymbol.index_le
    cursor_eq := failed_at_entry (hplain.within hruns.within) hblames.failed
    message_eq := hmessage
    names := ?_ }⟩
  rw [← hmessage]
  exact hblames.raised.names

def letterPairs : Rules :=
  [(['p'], .between (.character '(') (.character ')')
    (.tuple [.optional (.rule ['p']), .many (.character 'a') 1]))]

/-- It is the outer pair in which there are no letters, at the sixth byte. -/
theorem message_origin_pairs :
    ∃ part entry own,
      StemsFrom letterPairs "é((a))".toList (.indexed (.tuple [.literal ['é'], .rule ['p']]))
        (.start "é((a))".toList)
        "many failed to parse at 6: expected at least 1 matches, found 0".toList part entry own := by
  have hplain : ∀ part ∈ allNodes letterPairs (.indexed (.tuple [.literal ['é'], .rule ['p']])),
      Plain part := by
    simp [allNodes, nodes_eq, parts, letterPairs, Plain]
  have hfailed : ((Grammar.indexed (.tuple [.literal ['é'], .rule ['p']])).parser letterPairs
      (.start "é((a))".toList)).outcome =
        .failed (.composite (.start "é((a))".toList) (.tooFew 6 1 0)) := by cbv
  exact (message_origin (fun part hpart => hplain part hpart.mem_allNodes)
    ⟨rfl, Cursor.onSymbol_start _⟩ hfailed).2

end Descent.Grammar
