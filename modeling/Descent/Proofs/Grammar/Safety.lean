import Mathlib
import Descent.Grammar.Revision
import Descent.Proofs.Grammar.Entries
import Descent.Proofs.Position

/-!
# Cursors stay on the symbols of the text

A function of a grammar `Navigates` when it has its cursors from those it is
given, by any steps forwards and backwards. Then every cursor that a run meets
is `Safe` (`meets_safe`), on whatever level and in whichever attempt, also if
the run never ends: the text before it and the text behind it are there, and so
is whatever is skipped or cut off behind it.
-/

namespace Descent

namespace Cursor

inductive Obtained (given : List Cursor) : Cursor → Prop
  | given : cursor ∈ given → Obtained given cursor
  | advance (count : Nat) : Obtained given cursor → Obtained given (cursor.advance count)
  | retreat : Obtained given cursor → Obtained given cursor.retreat

variable {source : Text} {cursor : Cursor}

theorem Obtained.on {given : List Cursor} (h : Obtained given cursor)
    (hgiven : ∀ cursor ∈ given, On source cursor) : On source cursor := by
  induction h with
  | given hmem => exact hgiven _ hmem
  | advance count _ ih => exact ih.advance count
  | retreat _ ih => exact ih.retreat

/-- The lengths in bytes that are skipped or cut off behind a cursor. A move, the match of a pattern
and what stands in place of a literal are counted in symbols. -/
inductive Measures (cursor : Cursor) : Nat → Prop
  | symbols (count : Nat) : Measures cursor (Text.byteSize (cursor.remainder.take count))
  | literal : expected <+: cursor.remainder → Measures cursor (Text.byteSize expected)

/-- So many bytes behind the cursor are there and cut no symbol, so to skip them needs no clamp. -/
structure Fits (cursor : Cursor) (length : Nat) : Prop where
  text : ∃ text, cursor.remainder.takeBytes? length = some text
  index_le : cursor.index + length ≤ cursor.source.byteSize
  index_skipBytes : (cursor.skipBytes length).index = cursor.index + length
  onSymbol_skipBytes : (cursor.skipBytes length).OnSymbol

/-- The cursor stands on a symbol of this text or at its end, and all that is read from there, by
`remainder`, by `retreat` and `location`, and behind it, is there to be read. -/
structure Safe (source : Text) (cursor : Cursor) : Prop where
  on : On source cursor
  index_le : cursor.index ≤ source.byteSize
  remainder : source.dropBytes? cursor.index = some cursor.remainder
  before : source.takeBytes? cursor.index = some cursor.before
  fits : ∀ length, cursor.Measures length → cursor.Fits length

theorem Measures.exists_text (h : Measures cursor length) :
    ∃ text, text <+: cursor.remainder ∧ length = Text.byteSize text := by
  cases h with
  | symbols count => exact ⟨_, List.take_prefix _ _, rfl⟩
  | literal hstarts => exact ⟨_, hstarts, rfl⟩

theorem OnSymbol.index_le (h : cursor.OnSymbol) :
    cursor.index ≤ cursor.source.byteSize := by
  obtain ⟨before, after, hsource, hindex⟩ := h
  rw [hindex, hsource, Text.byteSize_append]
  exact Nat.le_add_right _ _

theorem Measures.fits (h : Measures cursor length) (hcursor : cursor.OnSymbol) :
    cursor.Fits length := by
  obtain ⟨text, ⟨after, hafter⟩, rfl⟩ := h.exists_text
  have hreads := reads_skipBytes hcursor hafter.symm
  have hskipped := hreads.onSymbol hcursor
  refine ⟨⟨text, ?_⟩, ?_, hreads.index, hskipped⟩
  · rw [← hafter, Text.takeBytes?_append]
  · rw [← hreads.index]
    exact hskipped.index_le

theorem safe_of_on (h : On source cursor) : Safe source cursor := by
  have hindex := h.onSymbol.index_le
  rw [h.source] at hindex
  obtain ⟨position, -, rfl⟩ := h.exists_nth
  refine ⟨h, hindex, ?_, ?_, fun length hlength => hlength.fits h.onSymbol⟩
  · rw [dropBytes?_nth, remainder_nth]
  · rw [takeBytes?_nth, before_nth]

end Cursor

theorem Run.Refines.failed_failure {like : Likeness} {value : α → β → Prop} {run : Run α}
    {run' : Run β} {failure : Failure} (h : run.Refines like value run')
    (hfailed : run.outcome = .failed failure) : ∃ failure', like.failure failure failure' := by
  cases h with
  | failed _ hfailure =>
    obtain rfl := Outcome.failed.inj hfailed
    exact ⟨_, hfailure⟩
  | _ => simp at hfailed

namespace Grammar

def target : Except Failure (Value × Cursor) → Cursor
  | .ok (_, rest) => rest
  | .error failure => failure.cursor

/-- The functions of a grammar have their cursors from those that they are given. -/
def Navigates : Grammar → Prop
  | .leaf function => ∀ cursor, Cursor.Obtained [cursor] (target (function cursor))
  | .mapState _ revision => ∀ entry value rest,
      Cursor.Obtained [entry, rest] (target (revision entry value rest))
  | _ => True

/-- The cursors that a run meets: where it runs its parts, where they stop or fail, and what is had
from those. -/
inductive Meets (rules : Rules) (grammar : Grammar) (cursor : Cursor) : Cursor → Prop
  | entry : Runs rules (grammar, cursor) (part, entry) → Meets rules grammar cursor entry
  | rest : Runs rules (grammar, cursor) (part, entry) → Matches rules part entry value rest →
      Meets rules grammar cursor rest
  | failure {failure : Failure} : Runs rules (grammar, cursor) (part, entry) →
      (part.parser rules entry).outcome = .failed failure →
      Meets rules grammar cursor failure.cursor
  | advance (count : Nat) : Meets rules grammar cursor met →
      Meets rules grammar cursor (met.advance count)
  | retreat : Meets rules grammar cursor met → Meets rules grammar cursor met.retreat

variable {rules : Rules} {grammar : Grammar} {cursor : Cursor} {source : Text}

theorem Navigates.target_leaf {function : Leaf} (h : (Grammar.leaf function).Navigates)
    (hcursor : Cursor.On source cursor) : Cursor.On source (target (function cursor)) :=
  (h cursor).on (List.forall_mem_singleton.mpr hcursor)

theorem Navigates.target_mapState {body : Grammar} {revision : Revision}
    (h : (Grammar.mapState body revision).Navigates) (value : Value)
    (hentry : Cursor.On source entry) (hrest : Cursor.On source rest) :
    Cursor.On source (target (revision entry value rest)) := by
  refine (h entry value rest).on ?_
  simp [hentry, hrest]

theorem Navigates.stays (h : grammar.Navigates) : grammar.Stays := by
  intro source
  cases grammar with
  | leaf function =>
    intro cursor value rest hcursor hresult
    have := h.target_leaf hcursor
    rwa [hresult] at this
  | mapState body revision =>
    intro entry value rest revised stop hentry hrest hresult
    have := h.target_mapState value hentry hrest
    rwa [hresult] at this
  | _ => trivial

-- ---------------------------------------------------------------------------
-- Failures
-- ---------------------------------------------------------------------------

def Likeness.onText (source : Text) : Likeness :=
  { Likeness.on source with
    failure x y := x = y ∧ Cursor.On source x.cursor
    new h reason := ⟨by rw [h.1], h.2⟩
    composite h reason := ⟨by rw [h.1], h.2⟩
    anchored hfailure hcursor := ⟨by rw [hfailure.1, hcursor.1], hcursor.2⟩
    alternativeFailed h number := congrArg (Event.alternativeFailed number) h.1 }

theorem Likeness.results_onText {result : Except Failure (Value × Cursor)}
    (h : Cursor.On source (target result)) : (onText source).Results result result := by
  cases result with
  | ok found => exact .ok rfl ⟨rfl, h⟩
  | error failure => exact .error ⟨rfl, h⟩

theorem Navigates.admits (h : grammar.Navigates) : (Likeness.onText source).Admits grammar := by
  cases grammar with
  | leaf function =>
    rintro cursor _ ⟨rfl, hcursor⟩
    exact Likeness.results_onText (h.target_leaf hcursor)
  | mapState body revision =>
    rintro entry _ value _ rest _ ⟨rfl, hentry⟩ rfl ⟨rfl, hrest⟩
    exact Likeness.results_onText (h.target_mapState value hentry hrest)
  | _ => exact Likeness.admits_same (h.stays source)

theorem failed_on {failure : Failure} (hgrammar : grammar.Every rules Navigates)
    (hcursor : Cursor.On source cursor)
    (h : (grammar.parser rules cursor).outcome = .failed failure) :
    Cursor.On source failure.cursor := by
  have hadmits : grammar.Every rules (Likeness.onText source).Admits :=
    hgrammar.imp fun _ => Navigates.admits
  obtain ⟨_, -, hon⟩ := (run_refines hadmits (Nat.le_refl _) ⟨rfl, hcursor⟩).failed_failure h
  exact hon

-- ---------------------------------------------------------------------------
-- Leaves and revisions
-- ---------------------------------------------------------------------------

theorem leaves_navigate (symbol : Char) (text : Text) (count : Nat) :
    ∀ leaf ∈ [Leaf.any, .atEnd, .fail text, .failComposite text, .failAhead count text,
      .yields text, .take count, .upTo symbol, .previous, .lineStart, .location, .back],
      (Grammar.leaf leaf).Navigates := by
  have hhere : ∀ cursor, Cursor.Obtained [cursor] cursor := fun _ => .given List.mem_cons_self
  simp only [List.forall_mem_cons]
  refine ⟨?_, ?_, hhere, hhere, fun _ => .advance count (hhere _), hhere, ?_,
    fun _ => .advance _ (hhere _), ?_, ?_, hhere, fun _ => .retreat (hhere _), nofun⟩
  · intro cursor
    unfold Leaf.any
    split
    · exact .advance 1 (hhere cursor)
    · exact hhere cursor
  · intro cursor
    unfold Leaf.atEnd
    split <;> exact hhere cursor
  · intro cursor
    simp only [Leaf.take]
    split
    · exact hhere cursor
    · exact .advance count (hhere cursor)
  · intro cursor
    unfold Leaf.previous
    split <;> exact hhere cursor
  · intro cursor
    unfold Leaf.lineStart
    split <;> exact hhere cursor

theorem revisions_navigate (body : Grammar) (text : Text) (count : Nat) :
    ∀ revision ∈ [Revision.positions, .rewind, .advance count, .retreat, .reject text,
      .rejectHere text, .rejectComposite text, .rejectAnchored text, .slice, .locations,
      .remainder],
      (Grammar.mapState body revision).Navigates := by
  have hentry : ∀ entry (_ : Value) rest, Cursor.Obtained [entry, rest] entry :=
    fun _ _ _ => .given (by simp)
  have hrest : ∀ entry (_ : Value) rest, Cursor.Obtained [entry, rest] rest :=
    fun _ _ _ => .given (by simp)
  simp only [List.forall_mem_cons]
  exact ⟨hrest, hentry, fun entry value rest => .advance count (hrest entry value rest),
    fun entry value rest => .retreat (hrest entry value rest), hentry, hrest, hrest, hentry, hrest,
    hrest, hrest, nofun⟩

/-- Every cursor that a run meets is safe. -/
theorem meets_safe (hgrammar : grammar.Every rules Navigates) (hcursor : Cursor.On source cursor)
    (h : Meets rules grammar cursor met) : Cursor.Safe source met := by
  have hstays : grammar.Every rules Stays := hgrammar.imp fun _ => Navigates.stays
  have hon : Cursor.On source met := by
    induction h with
    | entry hruns => exact hruns.on hstays hcursor
    | rest hruns hmatches =>
      exact hmatches.on (hstays.within hruns.within) (hruns.on hstays hcursor)
    | failure hruns hfailed =>
      exact failed_on (hgrammar.within hruns.within) (hruns.on hstays hcursor) hfailed
    | advance count _ ih => exact ih.advance count
    | retreat _ ih => exact ih.retreat
  exact Cursor.safe_of_on hon

/-- Two symbols on and one back, then there and back again, then on as far as one can. -/
def zigzag : List Grammar :=
  [.mapState (.leaf (.take 2)) .retreat, .character 'é', .leaf .back,
    .mapState (.character 'é') (.advance (2 ^ 64 - 1))]

theorem zigzag_navigates : (list (zigzag ++ [.literal ['x']])).Every [] Navigates := by
  intro part hpart
  have hmem := hpart.mem_allNodes
  simp only [allNodes, nodes_eq, parts, zigzag, List.flatMap_nil, List.flatMap_cons,
    List.append_nil, List.nil_append, List.cons_append, List.mem_cons, List.not_mem_nil,
    or_false] at hmem
  obtain rfl | rfl | rfl | rfl | rfl | rfl | rfl | rfl := hmem
  · trivial
  · exact revisions_navigate _ [] 0 _ (by simp)
  · exact leaves_navigate 'x' [] 2 _ (by simp)
  · trivial
  · exact leaves_navigate 'x' [] 0 _ (by simp)
  · exact revisions_navigate _ [] (2 ^ 64 - 1) _ (by simp)
  · trivial
  · trivial

theorem meets_safe_zigzag :
    Meets [] (.list (zigzag ++ [.literal ['x']])) ⟨['→', 'é', '😀'], 0⟩ ⟨['→', 'é', '😀'], 9⟩ ∧
      Cursor.Safe ['→', 'é', '😀'] ⟨['→', 'é', '😀'], 9⟩ := by
  have htake : Matches [] (.mapState (.leaf (.take 2)) .retreat) ⟨['→', 'é', '😀'], 0⟩
      (.text ['→', 'é']) ⟨['→', 'é', '😀'], 3⟩ := by cbv
  have hsymbol : Matches [] (.character 'é') ⟨['→', 'é', '😀'], 3⟩ (.char 'é')
      ⟨['→', 'é', '😀'], 5⟩ := by cbv
  have hback : Matches [] (.leaf .back) ⟨['→', 'é', '😀'], 5⟩ .none ⟨['→', 'é', '😀'], 3⟩ := by cbv
  have hadvance : Matches [] (.mapState (.character 'é') (.advance (2 ^ 64 - 1)))
      ⟨['→', 'é', '😀'], 3⟩ (.char 'é') ⟨['→', 'é', '😀'], 9⟩ := by cbv
  have hthreaded := Threaded.cons htake (.cons hsymbol (.cons hback (.cons hadvance .nil)))
  have hmet : Meets [] (.list (zigzag ++ [.literal ['x']])) ⟨['→', 'é', '😀'], 0⟩
      ⟨['→', 'é', '😀'], 9⟩ := .entry (.single (.behind .list hthreaded))
  exact ⟨hmet, meets_safe zigzag_navigates ⟨rfl, Cursor.onSymbol_start _⟩ hmet⟩

end Grammar

end Descent
