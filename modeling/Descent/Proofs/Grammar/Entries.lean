import Descent.Proofs.Grammar.Match

/-!
# What a run runs, and where

`Enters`: a grammar that is run at a cursor runs another grammar at a cursor,
once the parts before that have matched or, in a choice, failed. That is all a
grammar asks of its parts: two ways of running them that agree on these entries
give the same run (`assemble_eq_of_enters`). `Runs` are the entries of all
levels, also those of runs that do not end.
-/

namespace Descent

namespace Parser

variable {cursor : Cursor} {first first' parser parser' item item' : Parser α}

theorem bind_congr_at {next next' : α → Parser β} (h : first cursor = first' cursor)
    (hnext : ∀ value rest, (first cursor).outcome = .matched value rest →
      next value rest = next' value rest) :
    (first >>= next) cursor = (first' >>= next') cursor := by
  show Parser.bind first next cursor = Parser.bind first' next' cursor
  simp only [Parser.bind, ← h]
  cases houtcome : (first cursor).outcome with
  | matched value rest => simp only [hnext value rest houtcome]
  | _ => rfl

theorem map_congr_at {f : α → β} (h : parser cursor = parser' cursor) :
    (f <$> parser) cursor = (f <$> parser') cursor := bind_congr_at h fun _ _ _ => rfl

theorem onFailure_congr_at {handler handler' : Failure → Parser α}
    (h : parser cursor = parser' cursor)
    (hhandler : ∀ failure, (parser cursor).outcome = .failed failure →
      handler failure cursor = handler' failure cursor) :
    parser.onFailure handler cursor = parser'.onFailure handler' cursor := by
  simp only [onFailure, ← h]
  cases houtcome : (parser cursor).outcome with
  | failed failure => simp only [hhandler failure houtcome]
  | _ => rfl

theorem anchored_congr_at (h : parser cursor = parser' cursor) :
    parser.anchored cursor = parser'.anchored cursor := onFailure_congr_at h fun _ _ => rfl

theorem optional_congr_at (h : parser cursor = parser' cursor) :
    parser.optional cursor = parser'.optional cursor :=
  onFailure_congr_at (map_congr_at h) fun _ _ => rfl

theorem star_congr_at (h : ∀ rounds values entry,
      Threads (List.replicate rounds parser) cursor values entry → parser entry = parser' entry) :
    star limit parser cursor = star limit parser' cursor := by
  induction limit generalizing cursor with
  | zero => rfl
  | succ limit ih =>
    refine bind_congr_at (optional_congr_at (h 0 [] cursor .nil)) fun found middle hfound => ?_
    cases found with
    | none => rfl
    | some value =>
      refine bind_congr_at (ih fun rounds values entry hrounds => ?_) fun _ _ _ => rfl
      exact h (rounds + 1) (value :: values) entry (.cons (optional_some.mp hfound) hrounds)

theorem linked_congr_at {link link' : Parser β} (hlink : link cursor = link' cursor)
    (hitem : ∀ connection middle, (link cursor).outcome = .matched connection middle →
      item middle = item' middle) :
    linked dangling link item cursor = linked dangling link' item' cursor := by
  simp only [linked, here_bind]
  refine bind_congr_at hlink fun connection middle hconnection => ?_
  have hitem := hitem connection middle hconnection
  exact bind_congr_at (onFailure_congr_at hitem fun _ _ => rfl) fun _ _ _ => rfl

theorem chain_congr_at {link link' : Parser β} (hfirst : item cursor = item' cursor)
    (hstar : ∀ value middle, (item cursor).outcome = .matched value middle →
      star limit (linked dangling link item) middle =
        star limit (linked dangling link' item') middle) :
    chain limit reason dangling item link cursor =
      chain limit reason dangling item' link' cursor := by
  simp only [chain, here_bind]
  refine bind_congr_at (onFailure_congr_at hfirst fun _ _ => rfl) fun value middle hvalue => ?_
  refine bind_congr_at (hstar value middle ?_) fun _ _ _ => rfl
  obtain h | ⟨_, _, h⟩ := onFailure_matched.mp hvalue
  · exact h
  · cases h

end Parser

namespace Grammar

/-- One grammar, run at a cursor, runs another at a cursor, given how grammars match and fail. -/
inductive Enters (rules : Rules) (matched : Grammar → Cursor → Value → Cursor → Prop)
    (failed : Grammar → Cursor → Prop) : Grammar → Cursor → Grammar → Cursor → Prop
  | behind : Unrolls rules grammar (before ++ part :: after) →
      Threaded matched before cursor values entry →
      Enters rules matched failed grammar cursor part entry
  | alternative : (∀ earlier ∈ before, failed earlier cursor) →
      Enters rules matched failed (.choose (before ++ part :: after)) cursor part cursor
  | revised : Enters rules matched failed (.mapState body revision) cursor body cursor

variable {rules : Rules} {grammar part : Grammar} {cursor entry : Cursor}
  {matched : Grammar → Cursor → Value → Cursor → Prop} {failed : Grammar → Cursor → Prop}

theorem Enters.first (h : Unrolls rules grammar (part :: after)) :
    Enters rules matched failed grammar cursor part cursor := by
  have h : Unrolls rules grammar ([] ++ part :: after) := h
  exact .behind h .nil

theorem Enters.first_alternative :
    Enters rules matched failed (.choose (part :: after)) cursor part cursor := by
  have h : ∀ earlier ∈ [], failed earlier cursor := by simp
  exact .alternative h

section
variable {part part' : Grammar → Parser Value}

theorem Threaded.append (h : Threaded matched before cursor values middle)
    (hlater : Threaded matched after middle values' rest) :
    Threaded matched (before ++ after) cursor (values ++ values') rest := by
  induction h with
  | nil => exact hlater
  | cons hfirst _ ih => exact .cons hfirst (ih hlater)

theorem each_congr_at {all : List Grammar}
    (h : ∀ before inner after values entry, all = before ++ inner :: after →
      Threaded (MatchedBy part) before cursor values entry → part inner entry = part' inner entry) :
    Parser.each (all.map part) cursor = Parser.each (all.map part') cursor := by
  induction all generalizing cursor with
  | nil => rfl
  | cons first later ih =>
    refine Parser.bind_congr_at (h [] first later [] cursor rfl .nil) fun value middle hvalue => ?_
    refine Parser.bind_congr_at (ih ?_) fun _ _ _ => rfl
    intro before inner after values entry hlater hthreaded
    exact h (first :: before) inner after (value :: values) entry (by rw [hlater]; rfl)
      (.cons hvalue hthreaded)

theorem firstOf_congr_at {all : List Grammar}
    (h : ∀ before inner after, all = before ++ inner :: after →
      (∀ earlier ∈ before, FailedBy part earlier cursor) → part inner cursor = part' inner cursor) :
    Parser.firstOf number (all.map part) cursor = Parser.firstOf number (all.map part') cursor := by
  induction all generalizing number with
  | nil => rfl
  | cons first later ih =>
    refine Parser.onFailure_congr_at (h [] first later rfl nofun) fun failure hfailure => ?_
    refine Parser.bind_congr_at rfl fun _ _ hemit => ?_
    obtain ⟨-, rfl⟩ := Outcome.matched.inj hemit
    refine ih fun before inner after hlater hbefore => ?_
    refine h (first :: before) inner after (by rw [hlater]; rfl) ?_
    exact List.forall_mem_cons.mpr ⟨⟨failure, hfailure⟩, hbefore⟩

theorem star_linked_congr_at {linking item : Grammar} {link link' : Parser β} {f : Value → β}
    (hlink : ∀ {entry joined rest}, (link entry).outcome = .matched joined rest →
      ∃ value, MatchedBy part linking entry value rest ∧ f value = joined)
    (hlinking : ∀ rounds values entry,
      Threaded (MatchedBy part) (List.replicate rounds [linking, item]).flatten cursor values
        entry → link entry = link' entry)
    (hitem : ∀ rounds values entry,
      Threaded (MatchedBy part) ((List.replicate rounds [linking, item]).flatten ++ [linking])
        cursor values entry → part item entry = part' item entry) :
    Parser.star limit (Parser.linked dangling link (part item)) cursor =
      Parser.star limit (Parser.linked dangling link' (part' item)) cursor := by
  refine Parser.star_congr_at fun rounds found entry hrounds => ?_
  -- What the rounds before read is known of the parts only, not of the pairs.
  obtain ⟨pairs, -, hthreaded⟩ := threaded_of_linked hlink hrounds
  refine Parser.linked_congr_at (hlinking rounds _ entry hthreaded) fun joined middle hjoined => ?_
  obtain ⟨value, hvalue, -⟩ := hlink hjoined
  exact hitem rounds _ middle (hthreaded.append (.cons hvalue .nil))

theorem chain_congr_at {linking item : Grammar} {link link' : Parser β} {f : Value → β}
    (hunrolls : ∀ rounds,
      Unrolls rules grammar (item :: (List.replicate rounds [linking, item]).flatten))
    (h : ∀ inner entry, Enters rules (MatchedBy part) (FailedBy part) grammar cursor inner entry →
      part inner entry = part' inner entry)
    (hlink : ∀ {entry joined rest}, (link entry).outcome = .matched joined rest →
      ∃ value, MatchedBy part linking entry value rest ∧ f value = joined)
    (hlinking : ∀ entry, part linking entry = part' linking entry → link entry = link' entry) :
    Parser.chain limit reason dangling (part item) link cursor =
      Parser.chain limit reason dangling (part' item) link' cursor := by
  have hround : ∀ rounds, Unrolls rules grammar
      (item :: (List.replicate rounds [linking, item]).flatten ++ linking :: [item]) := by
    intro rounds
    have hunrolls := hunrolls (rounds + 1)
    rwa [List.replicate_succ', List.flatten_concat] at hunrolls
  refine Parser.chain_congr_at (h item cursor (.first (hunrolls 0))) fun value middle hvalue => ?_
  refine star_linked_congr_at hlink (fun rounds values entry hrounds => hlinking entry ?_) ?_
  · exact h linking entry (.behind (hround rounds) (.cons hvalue hrounds))
  · intro rounds values entry hrounds
    have hround := hround rounds
    rw [List.append_cons] at hround
    exact h item entry (.behind hround (.cons hvalue hrounds))

/-- Nothing that is not entered matters, neither to the outcome nor to the events. -/
theorem assemble_eq_of_enters
    (h : ∀ inner entry, Enters rules (MatchedBy part) (FailedBy part) grammar cursor inner entry →
      part inner entry = part' inner entry) :
    assemble rules limit part grammar cursor = assemble rules limit part' grammar cursor := by
  cases grammar with
  | character expected | literal expected | pattern searched | leaf function => rfl
  | tuple all | list all =>
    refine Parser.map_congr_at (Parser.anchored_congr_at (each_congr_at ?_))
    rintro before inner after values entry rfl hbefore
    exact h inner entry (.behind (by constructor) hbefore)
  | choose all =>
    refine firstOf_congr_at ?_
    rintro before inner after rfl hbefore
    exact h inner cursor (.alternative hbefore)
  | optional body =>
    exact Parser.map_congr_at (Parser.optional_congr_at (h body cursor (.first .optional)))
  | many body least =>
    have hstar : Parser.star limit (part body) cursor = Parser.star limit (part' body) cursor := by
      refine Parser.star_congr_at fun rounds values entry hrounds => ?_
      rw [← List.map_replicate] at hrounds
      have hunrolls :
          Unrolls rules (.many body least) (List.replicate rounds body ++ body :: []) := by
        rw [← List.replicate_succ']
        exact .many (rounds + 1)
      exact h body entry (.behind hunrolls (threaded_of_threads hrounds))
    refine Parser.map_congr_at ?_
    simp only [Parser.many, Parser.here_bind]
    exact Parser.bind_congr_at hstar fun _ _ _ => rfl
  | interpose item separator =>
    refine Parser.map_congr_at (Parser.bind_congr_at ?_ fun _ _ _ => rfl)
    exact chain_congr_at (f := id) .interpose h (fun hlinked => ⟨_, hlinked, rfl⟩)
      fun _ hlink => hlink
  | between opening closing inner =>
    refine Parser.anchored_congr_at ?_
    refine Parser.bind_congr_at (h opening cursor (.first .between)) fun first opened hfirst => ?_
    have hunrolls :
        Unrolls rules (.between opening closing inner) ([opening] ++ inner :: [closing]) := .between
    have hinner := h inner opened (.behind hunrolls (.cons hfirst .nil))
    refine Parser.bind_congr_at hinner fun value closed hvalue => ?_
    have hunrolls :
        Unrolls rules (.between opening closing inner) ([opening, inner] ++ closing :: []) := .between
    have hclosing := h closing closed (.behind hunrolls (.cons hfirst (.cons hvalue .nil)))
    exact Parser.bind_congr_at hclosing fun _ _ _ => rfl
  | chainl operand operator fold =>
    refine Parser.bind_congr_at ?_ fun _ _ _ => rfl
    exact chain_congr_at .chainl h Parser.map_matched.mp fun _ => Parser.map_congr_at
  | map body mapping => exact Parser.map_congr_at (h body cursor (.first .map))
  | mapState body revision =>
    simp only [assemble, Parser.mapState, Parser.here_bind]
    exact Parser.bind_congr_at (h body cursor .revised) fun _ _ _ => rfl
  | filter body test message =>
    simp only [assemble, Parser.filter, Parser.here_bind]
    exact Parser.bind_congr_at (h body cursor (.first .filter)) fun _ _ _ => rfl
  | indexed body =>
    refine Parser.map_congr_at ?_
    simp only [Parser.indexed, Parser.here_bind]
    exact Parser.bind_congr_at (h body cursor (.first .indexed)) fun _ _ _ => rfl
  | rule name =>
    simp only [assemble]
    cases hbody : rules.lookup name with
    | none => rfl
    | some body => exact h body cursor (.first (.rule hbody))

end

theorem Enters.mem_calls (h : Enters rules matched failed grammar cursor part entry) :
    part ∈ grammar.calls rules := by
  cases h with
  | behind hunrolls => exact hunrolls.calls _ (by simp)
  | alternative => simp
  | revised => simp

-- ---------------------------------------------------------------------------
-- All levels
-- ---------------------------------------------------------------------------

/-- What a run runs on all levels, and where; itself among them. -/
def Runs (rules : Rules) : Grammar × Cursor → Grammar × Cursor → Prop :=
  Relation.ReflTransGen fun outer inner =>
    Enters rules (Matches rules) (Fails rules) outer.1 outer.2 inner.1 inner.2

theorem Threaded.on {all : List Grammar} {source : Text}
    (hall : ∀ part ∈ all, part.Every rules Stays) (hcursor : Cursor.On source cursor)
    (h : Threaded (Matches rules) all cursor values rest) : Cursor.On source rest := by
  induction h with
  | nil => exact hcursor
  | cons hfirst _ ih =>
    obtain ⟨hhead, htail⟩ := List.forall_mem_cons.mp hall
    exact ih htail (hfirst.on hhead hcursor)

theorem Enters.on {source : Text}
    (h : Enters rules (Matches rules) (Fails rules) grammar cursor part entry)
    (hstays : grammar.Every rules Stays) (hcursor : Cursor.On source cursor) :
    Cursor.On source entry := by
  cases h with
  | behind hunrolls hbefore =>
    refine hbefore.on (fun earlier hearlier => hstays.call ?_) hcursor
    exact hunrolls.calls earlier (List.mem_append_left _ hearlier)
  | alternative => exact hcursor
  | revised => exact hcursor

theorem Runs.within {inner : Grammar × Cursor} (h : Runs rules (grammar, cursor) inner) :
    Within rules grammar inner.1 := by
  induction h with
  | refl => exact .refl
  | tail _ henters ih => exact ih.tail henters.mem_calls

theorem Runs.on {source : Text} {inner : Grammar × Cursor} (h : Runs rules (grammar, cursor) inner)
    (hstays : grammar.Every rules Stays) (hcursor : Cursor.On source cursor) :
    Cursor.On source inner.2 := by
  induction h with
  | refl => exact hcursor
  | tail houter henters ih => exact henters.on (hstays.within (Runs.within houter)) ih

end Grammar

end Descent
