import Mathlib
import Descent.Grammar.Leaf
import Descent.Value.Mapping
import Descent.Proofs.Grammar.Entries
import Descent.Proofs.Position

/-!
# Where spans stand

`Onward`: the functions of a grammar do not go back and make up no spans. Then
matches go forwards, and every span in the value of a match was recorded in it
and lies between its cursors, as it does between those of each match around it
(`spans_sound`). What a match is made of is said by `Contains`: the matches of
the parts that it kept, on all levels. `Attempts` are all matches that a run came
to. One that was given up may have read further than what was kept instead, so its
span starts in the spans around it but need not stop there.
-/

namespace Descent

namespace Value

mutual
def spans : Value → List Span
  | .char _ | .text _ | .int _ | .none | .captures _ => []
  | .some value | .tagged _ value => value.spans
  | .list values | .tuple values => spansOfAll values
  | .spanned value span => span :: value.spans
  | .node _ left right => left.spans ++ right.spans

def spansOfAll : List Value → List Span
  | [] => []
  | value :: rest => value.spans ++ spansOfAll rest
end

theorem spansOfAll_eq (values : List Value) : spansOfAll values = values.flatMap spans := by
  induction values with
  | nil => rfl
  | cons value rest ih => rw [spansOfAll, ih, List.flatMap_cons]

theorem spans_foldl {fold : Fold} {pairs : List (Value × Value)}
    (hfold : ∀ link left right, ∀ span ∈ (fold link left right).spans,
      span ∈ link.spans ∨ span ∈ left.spans ∨ span ∈ right.spans)
    (h : span ∈ (pairs.foldl (fun joined (link, value) => fold link joined value) first).spans) :
    ∃ value ∈ first :: pairs.flatMap (fun (link, value) => [link, value]), span ∈ value.spans := by
  induction pairs generalizing first with
  | nil => exact ⟨first, List.mem_cons_self, h⟩
  | cons pair pairs ih =>
    obtain ⟨link, right⟩ := pair
    obtain ⟨value, hvalue, hspan⟩ := ih h
    obtain rfl | hvalue := List.mem_cons.mp hvalue
    · obtain hspan | hspan | hspan := hfold link first right span hspan
      · exact ⟨link, by simp, hspan⟩
      · exact ⟨first, by simp, hspan⟩
      · exact ⟨right, by simp, hspan⟩
    · exact ⟨value, by simp [hvalue], hspan⟩

theorem mem_of_mem_everyOther : ∀ {values : List Value}, value ∈ everyOther values → value ∈ values
  | [], h | [_], h => h
  | first :: second :: rest, h => by
    obtain rfl | h := List.mem_cons.mp h
    · exact List.mem_cons_self
    · exact List.mem_cons_of_mem _ (List.mem_cons_of_mem _ (mem_of_mem_everyOther h))

theorem spans_element (place : Nat) (values : List Value) :
    ∀ span ∈ (values.getD place .none).spans, span ∈ spansOfAll values := by
  intro span hspan
  rw [spansOfAll_eq, List.mem_flatMap]
  rw [List.getD_eq_getElem?_getD] at hspan
  cases hvalue : values[place]? with
  | none =>
    rw [hvalue] at hspan
    cases hspan
  | some value =>
    rw [hvalue] at hspan
    exact ⟨value, List.mem_of_getElem? hvalue, hspan⟩

theorem spans_ofCapture (found : Option Capture) : (ofCapture found).spans = [] := by
  cases found <;> rfl

theorem mappings_spans (place number : Nat) (name : Text) :
    ∀ mapping ∈ [element place, group number, named name, evens],
      ∀ value, ∀ span ∈ (mapping value).spans, span ∈ value.spans := by
  simp only [List.forall_mem_cons]
  refine ⟨?_, ?_, ?_, ?_, nofun⟩ <;> intro value span hspan
  · cases value with
    | list values | tuple values => exact spans_element place values span hspan
    | _ => cases hspan
  · cases value with
    | captures found =>
      rw [group, spans_ofCapture] at hspan
      cases hspan
    | _ => cases hspan
  · cases value with
    | captures found =>
      rw [named, spans_ofCapture] at hspan
      cases hspan
    | _ => cases hspan
  · cases value with
    | list values =>
      rw [evens, spans, spansOfAll_eq, List.mem_flatMap] at hspan
      obtain ⟨value, hvalue, hspan⟩ := hspan
      rw [spans, spansOfAll_eq, List.mem_flatMap]
      exact ⟨value, mem_of_mem_everyOther hvalue, hspan⟩
    | _ => exact hspan

theorem spans_append (link left right : Value) :
    (Fold.append link left right).spans = left.spans ++ right.spans := by
  cases left <;> simp [Fold.append, spans, spansOfAll_eq]

theorem folds_spans :
    ∀ fold ∈ [Fold.node, Fold.flip, Fold.arithmetic, Fold.concat, Fold.left, Fold.right,
        Fold.append],
      ∀ link left right, ∀ span ∈ (fold link left right).spans,
        span ∈ link.spans ∨ span ∈ left.spans ∨ span ∈ right.spans := by
  simp only [List.forall_mem_cons]
  refine ⟨?_, ?_, ?_, ?_, ?_, ?_, ?_, nofun⟩ <;> intro link left right span hspan
  · exact .inr (List.mem_append.mp hspan)
  · exact .inr (List.mem_append.mp hspan).symm
  · cases hspan
  · cases hspan
  · exact .inr (.inl hspan)
  · exact .inr (.inr hspan)
  · rw [spans_append] at hspan
    exact .inr (List.mem_append.mp hspan)

end Value

/-- The span runs forwards from one symbol to another, so it has a length and a text. -/
structure Span.Sound (span : Span) : Prop where
  start_le_stop : span.start ≤ span.stop
  start_onSymbol : Cursor.OnSymbol ⟨span.source, span.start⟩
  stop_onSymbol : Cursor.OnSymbol ⟨span.source, span.stop⟩
  length? : ∃ length, span.length? = some length
  slice? : ∃ text, span.slice? = some text

theorem Cursor.On.sound {source : Text} {entry rest : Cursor} (hentry : On source entry)
    (hrest : On source rest) (hle : entry.index ≤ rest.index) :
    Span.Sound ⟨entry.source, entry.index, rest.index⟩ := by
  obtain ⟨text, htext⟩ := hentry.exists_reads hrest hle
  refine ⟨hle, hentry.onSymbol, ?_, ⟨_, if_pos hle⟩, ⟨text, htext.slice?_eq hentry.onSymbol⟩⟩
  rw [hentry.source, ← hrest.source]
  exact hrest.onSymbol

namespace Grammar

/-- The functions of the grammar neither go back nor yield spans that they were not given. -/
def Onward : Grammar → Prop
  | .leaf function => ∀ cursor value target, cursor.OnSymbol →
      function cursor = .ok (value, target) →
      Cursor.On cursor.source target ∧ cursor.index ≤ target.index ∧ value.spans = []
  | .map _ mapping => ∀ value, ∀ span ∈ (mapping value).spans, span ∈ value.spans
  | .chainl _ _ fold => ∀ link left right, ∀ span ∈ (fold link left right).spans,
      span ∈ link.spans ∨ span ∈ left.spans ∨ span ∈ right.spans
  | .mapState _ _ => False
  | _ => True

structure Piece where
  grammar : Grammar
  entry : Cursor
  value : Value
  rest : Cursor

/-- A match and a match of one of its parts that it kept. -/
inductive Holds (rules : Rules) : Piece → Piece → Prop
  | row : Unrolls rules grammar (before ++ part :: after) →
      Threaded (Matches rules) before cursor values entry → Matches rules part entry value stop →
      Threaded (Matches rules) after stop values' rest →
      Builds grammar (values ++ value :: values') whole →
      Holds rules ⟨grammar, cursor, whole, rest⟩ ⟨part, entry, value, stop⟩
  | winner : (∀ earlier ∈ before, Fails rules earlier cursor) →
      Matches rules part cursor value rest →
      Holds rules ⟨.choose (before ++ part :: after), cursor, value, rest⟩
        ⟨part, cursor, value, rest⟩
  | indexed : Matches rules body cursor value rest →
      Holds rules
        ⟨.indexed body, cursor, .spanned value ⟨cursor.source, cursor.index, rest.index⟩, rest⟩
        ⟨body, cursor, value, rest⟩

def Contains (rules : Rules) : Piece → Piece → Prop := Relation.ReflTransGen (Holds rules)

/-- A match that a run comes to on the way to another, to keep it or to give it up. -/
def Attempts (rules : Rules) (whole piece : Piece) : Prop :=
  Runs rules (whole.grammar, whole.entry) (piece.grammar, piece.entry) ∧
    Matches rules piece.grammar piece.entry piece.value piece.rest

def Piece.Records (piece : Piece) (span : Span) : Prop :=
  (∃ body, piece.grammar = .indexed body) ∧
    span = ⟨piece.entry.source, piece.entry.index, piece.rest.index⟩

variable {rules : Rules} {grammar part : Grammar} {cursor entry rest : Cursor} {value : Value}
  {source : Text} {matched : Grammar → Cursor → Value → Cursor → Prop}
  {failed : Grammar → Cursor → Prop}

theorem Onward.stays (h : grammar.Onward) : grammar.Stays := by
  intro source
  cases grammar with
  | leaf function =>
    intro cursor value target hcursor hresult
    obtain ⟨hon, -⟩ := h cursor value target hcursor.onSymbol hresult
    rwa [hcursor.source] at hon
  | mapState body revision => exact h.elim
  | _ => trivial

theorem Every.stays_of_onward (h : grammar.Every rules Onward) : grammar.Every rules Stays :=
  h.imp fun _ => Onward.stays

-- ---------------------------------------------------------------------------
-- Forwards
-- ---------------------------------------------------------------------------

theorem Threaded.forward {all : List Grammar}
    (h : Threaded (fun _ entry _ stop => entry.index ≤ stop.index) all cursor values rest) :
    cursor.index ≤ rest.index := by
  induction h with
  | nil => exact Nat.le_refl _
  | cons hfirst _ ih => exact Nat.le_trans hfirst ih

theorem Matching.forward (hgrammar : grammar.Onward) (hcursor : cursor.OnSymbol)
    (h : Matching rules (fun _ entry _ stop => entry.index ≤ stop.index) failed grammar cursor value
      rest) : cursor.index ≤ rest.index := by
  cases h with
  | character => exact (Cursor.reads_advance hcursor 1).index_le
  | literal hstarts =>
    obtain ⟨after, hafter⟩ := hstarts
    exact (Cursor.reads_skipBytes hcursor hafter.symm).index_le
  | pattern => exact (Cursor.reads_advance hcursor _).index_le
  | leaf hleaf => exact (hgrammar cursor value rest hcursor hleaf).2.1
  | parts _ hthreaded => exact hthreaded.forward
  | choose _ hwinner => exact hwinner
  | absent => exact Nat.le_refl _
  | indexed hbody => exact hbody
  | mapState => exact hgrammar.elim

theorem Matches.forward (h : Matches rules grammar cursor value rest)
    (hgrammar : grammar.Every rules Onward) (hcursor : cursor.OnSymbol) :
    cursor.index ≤ rest.index := by
  refine matches_induction (motive := fun _ cursor _ rest => cursor.index ≤ rest.index)
    (fun _ => Onward.stays) ?_ hgrammar hcursor h
  intro grammar cursor value rest hgrammar hcursor hmatching
  exact Matching.forward hgrammar.self hcursor (hmatching.imp fun _ _ _ _ _ hpart => hpart.2.2)

theorem Threaded.forward_of_matches {all : List Grammar}
    (h : Threaded (Matches rules) all cursor values rest)
    (hall : ∀ part ∈ all, part.Every rules Onward) (hcursor : Cursor.On source cursor) :
    cursor.index ≤ rest.index := by
  refine (h.imp_on (Cursor.On source) ?_ hcursor).forward
  intro part hpart entry value stop hentry hmatched
  have hpart := hall part hpart
  exact ⟨hmatched.on hpart.stays_of_onward hentry, hmatched.forward hpart hentry.onSymbol⟩

theorem Enters.forward (h : Enters rules (Matches rules) (Fails rules) grammar cursor part entry)
    (hgrammar : grammar.Every rules Onward) (hcursor : cursor.OnSymbol) :
    cursor.index ≤ entry.index := by
  cases h with
  | behind hunrolls hbefore =>
    refine hbefore.forward_of_matches (fun earlier hearlier => hgrammar.call ?_) (.rfl hcursor)
    exact hunrolls.calls earlier (List.mem_append_left _ hearlier)
  | alternative => exact Nat.le_refl _
  | revised => exact Nat.le_refl _

theorem Runs.forward {inner : Grammar × Cursor} (h : Runs rules (grammar, cursor) inner)
    (hgrammar : grammar.Every rules Onward) (hcursor : cursor.OnSymbol) :
    cursor.index ≤ inner.2.index := by
  induction h with
  | refl => exact Nat.le_refl _
  | tail houter henters ih =>
    have hentry := Runs.on houter hgrammar.stays_of_onward (.rfl hcursor)
    exact Nat.le_trans ih (henters.forward (hgrammar.within (Runs.within houter)) hentry.onSymbol)

-- ---------------------------------------------------------------------------
-- Pieces
-- ---------------------------------------------------------------------------

variable {outer inner : Piece}

theorem Holds.enters (h : Holds rules outer inner) :
    Enters rules (Matches rules) (Fails rules) outer.grammar outer.entry inner.grammar
      inner.entry := by
  cases h with
  | row hunrolls hbefore => exact .behind hunrolls hbefore
  | winner hbefore => exact .alternative hbefore
  | indexed => exact .first .indexed

theorem Holds.matches (h : Holds rules outer inner) :
    Matches rules inner.grammar inner.entry inner.value inner.rest := by
  cases h with
  | row _ _ hmatched => exact hmatched
  | winner _ hmatched => exact hmatched
  | indexed hmatched => exact hmatched

theorem Holds.rest_le (h : Holds rules outer inner) (hgrammar : outer.grammar.Every rules Onward)
    (hentry : outer.entry.OnSymbol) : inner.rest.index ≤ outer.rest.index := by
  have henters := h.enters
  cases h with
  | row hunrolls _ hmatched hafter =>
    -- What is matched behind the part stands between its end and the end of the whole.
    have hentry := henters.on hgrammar.stays_of_onward (.rfl hentry)
    have hstop := hmatched.on (hgrammar.call henters.mem_calls).stays_of_onward hentry
    refine hafter.forward_of_matches (fun later hlater => hgrammar.call ?_) hstop
    exact hunrolls.calls later (by simp [hlater])
  | winner => exact Nat.le_refl _
  | indexed => exact Nat.le_refl _

theorem Contains.runs (h : Contains rules outer inner) :
    Runs rules (outer.grammar, outer.entry) (inner.grammar, inner.entry) := by
  induction h with
  | refl => exact .refl
  | tail _ hinner ih => exact .tail ih hinner.enters

theorem Contains.matches (h : Contains rules outer inner)
    (houter : Matches rules outer.grammar outer.entry outer.value outer.rest) :
    Matches rules inner.grammar inner.entry inner.value inner.rest := by
  cases h with
  | refl => exact houter
  | tail _ hinner => exact hinner.matches

theorem Contains.rest_le (h : Contains rules outer inner)
    (hgrammar : outer.grammar.Every rules Onward) (hentry : outer.entry.OnSymbol) :
    inner.rest.index ≤ outer.rest.index := by
  induction h with
  | refl => exact Nat.le_refl _
  | tail hmiddle hinner ih =>
    have hruns := Contains.runs hmiddle
    have hmiddle := hruns.on hgrammar.stays_of_onward (.rfl hentry)
    exact Nat.le_trans (hinner.rest_le (hgrammar.within hruns.within) hmiddle.onSymbol) ih

-- ---------------------------------------------------------------------------
-- Spans
-- ---------------------------------------------------------------------------

theorem Builds.mem_spans (hgrammar : grammar.Onward) (h : Builds grammar values value)
    (hspan : span ∈ value.spans) : ∃ found ∈ values, span ∈ found.spans := by
  cases h with
  | tuple | list | many | interpose =>
    rwa [Value.spans, Value.spansOfAll_eq, List.mem_flatMap] at hspan
  | between => exact ⟨value, by simp, hspan⟩
  | optional => exact ⟨_, List.mem_cons_self, hspan⟩
  | chainl => exact Value.spans_foldl hgrammar hspan
  | map => exact ⟨_, List.mem_cons_self, hgrammar _ span hspan⟩
  | filter | rule => exact ⟨value, List.mem_cons_self, hspan⟩

theorem Threaded.split {all : List Grammar} (h : Threaded matched all cursor values rest)
    (hvalue : value ∈ values) : ∃ before part after front entry stop back,
      all = before ++ part :: after ∧ values = front ++ value :: back ∧
      Threaded matched before cursor front entry ∧ matched part entry value stop ∧
      Threaded matched after stop back rest := by
  induction h with
  | nil => cases hvalue
  | @cons part cursor first middle later values rest hfirst hlater ih =>
    obtain rfl | hvalue := List.mem_cons.mp hvalue
    · exact ⟨[], part, later, [], cursor, middle, values, rfl, rfl, .nil, hfirst, hlater⟩
    · obtain ⟨before, inner, after, front, entry, stop, back, rfl, rfl, hbefore, hinner, hafter⟩ :=
        ih hvalue
      exact ⟨part :: before, inner, after, first :: front, entry, stop, back, rfl, rfl,
        .cons hfirst hbefore, hinner, hafter⟩

def Piece.Recorded (rules : Rules) (piece : Piece) : Prop :=
  ∀ span ∈ piece.value.spans, ∃ inner, Contains rules piece inner ∧ inner.Records span

theorem Holds.recorded (h : Holds rules outer inner) (hinner : inner.Recorded rules)
    (hspan : span ∈ inner.value.spans) :
    ∃ piece, Contains rules outer piece ∧ piece.Records span := by
  obtain ⟨piece, hcontains, hrecords⟩ := hinner span hspan
  exact ⟨piece, .head h hcontains, hrecords⟩

theorem Matching.recorded (hgrammar : grammar.Onward) (hcursor : cursor.OnSymbol)
    (h : Matching rules
      (fun part entry found stop => Matches rules part entry found stop ∧
        Piece.Recorded rules ⟨part, entry, found, stop⟩)
      (Fails rules) grammar cursor value rest) :
    Piece.Recorded rules ⟨grammar, cursor, value, rest⟩ := by
  intro span hspan
  cases h with
  | character | literal | pattern | absent => cases hspan
  | leaf hleaf =>
    obtain ⟨-, -, hnone⟩ := hgrammar cursor value rest hcursor hleaf
    rw [hnone] at hspan
    cases hspan
  | parts hunrolls hthreaded hbuilds =>
    obtain ⟨found, hfound, hspan⟩ := hbuilds.mem_spans hgrammar hspan
    obtain ⟨before, part, after, front, entry, stop, back, rfl, rfl, hbefore, hmatched, hafter⟩ :=
      hthreaded.split hfound
    have hbefore := hbefore.imp fun _ _ _ _ hpart => hpart.1
    have hafter := hafter.imp fun _ _ _ _ hpart => hpart.1
    exact (Holds.row hunrolls hbefore hmatched.1 hafter hbuilds).recorded hmatched.2 hspan
  | choose hbefore hwinner => exact (Holds.winner hbefore hwinner.1).recorded hwinner.2 hspan
  | indexed hbody =>
    obtain rfl | hspan := List.mem_cons.mp hspan
    · exact ⟨_, .refl, ⟨_, rfl⟩, rfl⟩
    · exact (Holds.indexed hbody.1).recorded hbody.2 hspan
  | mapState => exact hgrammar.elim

theorem Matches.recorded (h : Matches rules grammar cursor value rest)
    (hgrammar : grammar.Every rules Onward) (hcursor : cursor.OnSymbol) :
    Piece.Recorded rules ⟨grammar, cursor, value, rest⟩ := by
  refine matches_induction
    (motive := fun grammar cursor value rest => Piece.Recorded rules ⟨grammar, cursor, value, rest⟩)
    (fun _ => Onward.stays) ?_ hgrammar hcursor h
  intro grammar cursor value rest hgrammar hcursor hmatching
  exact Matching.recorded hgrammar.self hcursor (hmatching.imp fun _ _ _ _ _ hpart => hpart.2)

theorem leaves_onward (symbol : Char) (text : Text) (count : Nat) :
    ∀ leaf ∈ [Leaf.any, .atEnd, .fail text, .failComposite text, .failAhead count text,
      .yields text, .take count, .upTo symbol, .previous, .lineStart, .location],
      (Grammar.leaf leaf).Onward := by
  have hstay : ∀ {cursor : Cursor} {value : Value}, cursor.OnSymbol → value.spans = [] →
      Cursor.On cursor.source cursor ∧ cursor.index ≤ cursor.index ∧ value.spans = [] :=
    fun hcursor hnone => ⟨.rfl hcursor, Nat.le_refl _, hnone⟩
  have hadvance : ∀ {cursor : Cursor} {value : Value} (count : Nat), cursor.OnSymbol →
      value.spans = [] → Cursor.On cursor.source (cursor.advance count) ∧
        cursor.index ≤ (cursor.advance count).index ∧ value.spans = [] :=
    fun count hcursor hnone => by
      have hreads := Cursor.reads_advance hcursor count
      exact ⟨hreads.on (.rfl hcursor), hreads.index_le, hnone⟩
  simp only [List.forall_mem_cons]
  refine ⟨?_, ?_, nofun, nofun, nofun, ?_, ?_, ?_, ?_, ?_, ?_, nofun⟩ <;>
    intro cursor value target hcursor hresult
  · unfold Leaf.any at hresult
    split at hresult <;> cases hresult
    exact hadvance 1 hcursor rfl
  · unfold Leaf.atEnd at hresult
    split at hresult <;> cases hresult
    exact hstay hcursor rfl
  · cases hresult
    exact hstay hcursor rfl
  · simp only [Leaf.take] at hresult
    split at hresult <;> cases hresult
    exact hadvance count hcursor rfl
  · cases hresult
    exact hadvance _ hcursor rfl
  · unfold Leaf.previous at hresult
    split at hresult <;> cases hresult
    exact hstay hcursor rfl
  · unfold Leaf.lineStart at hresult
    split at hresult <;> cases hresult
    exact hstay hcursor rfl
  · cases hresult
    exact hstay hcursor rfl

/-- Where the spans stand that a match and the attempts on the way to it record. -/
structure Piece.Sound (rules : Rules) (piece : Piece) : Prop where
  forward : piece.entry.index ≤ piece.rest.index
  spans : ∀ span ∈ piece.value.spans,
    (∃ inner, Contains rules piece inner ∧ inner.Records span) ∧ span.Sound ∧
      span.source = piece.entry.source ∧ piece.entry.index ≤ span.start ∧
      span.stop ≤ piece.rest.index
  /-- A span lies in that of every match which kept the one that it was recorded by. -/
  nested : ∀ outer inner around span, Attempts rules piece outer → outer.Records around →
    Contains rules outer inner → inner.Records span →
    around.start ≤ span.start ∧ span.stop ≤ around.stop
  attempts : ∀ inner span, Attempts rules piece inner → inner.Records span →
    span.Sound ∧ piece.entry.index ≤ span.start
  /-- A span that was given up starts in those around it. It may stop behind them, as one of
  `respanned` does. -/
  starts : ∀ outer inner around span, Attempts rules piece outer → outer.Records around →
    Attempts rules outer inner → inner.Records span → around.start ≤ span.start

section
variable (hgrammar : outer.grammar.Every rules Onward) (hentry : outer.entry.OnSymbol)
include hgrammar hentry

theorem Attempts.sound (h : Attempts rules outer inner) (hrecords : inner.Records span) :
    span.Sound ∧ outer.entry.index ≤ span.start := by
  obtain ⟨hruns, hmatched⟩ := h
  obtain ⟨-, rfl⟩ := hrecords
  have hinner := hgrammar.within hruns.within
  have hon := hruns.on hgrammar.stays_of_onward (.rfl hentry)
  have hrest := hmatched.on hinner.stays_of_onward hon
  exact ⟨hon.sound hrest (hmatched.forward hinner hon.onSymbol), hruns.forward hgrammar hentry⟩

theorem Contains.lies (h : Contains rules outer inner) (hrecords : inner.Records span) :
    outer.entry.index ≤ span.start ∧ span.stop ≤ outer.rest.index := by
  obtain ⟨-, rfl⟩ := hrecords
  exact ⟨h.runs.forward hgrammar hentry, h.rest_le hgrammar hentry⟩

end

/-- Matches go forwards, and the spans in their values are where they were recorded. -/
theorem spans_sound (hgrammar : grammar.Every rules Onward) (hcursor : cursor.OnSymbol)
    (h : (grammar.parser rules cursor).outcome = .matched value rest) :
    Piece.Sound rules ⟨grammar, cursor, value, rest⟩ where
  forward := Matches.forward h hgrammar hcursor
  spans span hspan := by
    obtain ⟨inner, hcontains, hrecords⟩ := Matches.recorded h hgrammar hcursor span hspan
    have hattempts : Attempts rules _ inner := ⟨hcontains.runs, hcontains.matches h⟩
    have hsound := (hattempts.sound hgrammar hcursor hrecords).1
    refine ⟨⟨inner, hcontains, hrecords⟩, hsound, ?_,
      hcontains.lies hgrammar hcursor hrecords⟩
    obtain ⟨-, rfl⟩ := hrecords
    exact (hcontains.runs.on hgrammar.stays_of_onward (.rfl hcursor)).source
  nested outer inner around span houter haround hinner hrecords := by
    have hentry := houter.1.on hgrammar.stays_of_onward (.rfl hcursor)
    obtain ⟨-, rfl⟩ := haround
    exact hinner.lies (hgrammar.within houter.1.within) hentry.onSymbol hrecords
  attempts inner span hattempts hrecords := hattempts.sound hgrammar hcursor hrecords
  starts outer inner around span houter haround hinner hrecords := by
    have hentry := houter.1.on hgrammar.stays_of_onward (.rfl hcursor)
    obtain ⟨-, rfl⟩ := haround
    exact (hinner.sound (hgrammar.within houter.1.within) hentry.onSymbol hrecords).2

/-- Two alternatives with spans in them. The second drops those of its operators and of every other
operand. -/
def respanned : Grammar :=
  .indexed (.choose [.list [.indexed (.literal ['a', 'é', 'b', 'c']), .character 'x'],
    .map (.chainl (.indexed (.leaf .any)) (.indexed (.character 'é')) Value.Fold.append)
      Value.evens])

def respannedMatch : Piece where
  grammar := respanned
  entry := ⟨['→', 'a', 'é', 'b', 'c'], 3⟩
  value := .spanned (.list [.spanned (.char 'a') ⟨['→', 'a', 'é', 'b', 'c'], 3, 4⟩])
    ⟨['→', 'a', 'é', 'b', 'c'], 3, 7⟩
  rest := ⟨['→', 'a', 'é', 'b', 'c'], 7⟩

def respannedAttempt : Piece where
  grammar := .indexed (.literal ['a', 'é', 'b', 'c'])
  entry := ⟨['→', 'a', 'é', 'b', 'c'], 3⟩
  value := .spanned (.text ['a', 'é', 'b', 'c']) ⟨['→', 'a', 'é', 'b', 'c'], 3, 8⟩
  rest := ⟨['→', 'a', 'é', 'b', 'c'], 8⟩

theorem respanned_onward : respanned.Every [] Onward := by
  have hmap := Value.mappings_spans 0 0 [] Value.evens (by simp)
  have hfold := Value.folds_spans Value.Fold.append (by simp)
  have hleaf := leaves_onward 'x' [] 0 Leaf.any (by simp)
  intro part hpart
  have hmem := hpart.mem_allNodes
  simp only [allNodes, nodes_eq, parts, respanned, List.flatMap_nil, List.flatMap_cons,
    List.append_nil, List.nil_append, List.cons_append, List.mem_cons, List.not_mem_nil,
    or_false] at hmem
  obtain rfl | rfl | rfl | rfl | rfl | rfl | rfl | rfl | rfl | rfl | rfl | rfl := hmem
  all_goals first | exact hmap | exact hfold | exact hleaf | trivial

theorem respanned_matches :
    Matches [] respanned respannedMatch.entry respannedMatch.value respannedMatch.rest := by
  show (respanned.parser [] _).outcome = _
  cbv

theorem respanned_attempts : Attempts [] respannedMatch respannedAttempt := by
  have hmatched : Matches [] respannedAttempt.grammar respannedAttempt.entry
      respannedAttempt.value respannedAttempt.rest := by
    show ((Grammar.indexed (.literal ['a', 'é', 'b', 'c'])).parser [] _).outcome = _
    cbv
  have hruns : Runs [] (.list [respannedAttempt.grammar, .character 'x'], respannedMatch.entry)
      (respannedAttempt.grammar, respannedAttempt.entry) := .single (.first .list)
  exact ⟨.head (b := (.choose [_, _], _)) (.first .indexed) (.head .first_alternative hruns),
    hmatched⟩

theorem spans_sound_respanned :
    Matches [] respanned respannedMatch.entry respannedMatch.value respannedMatch.rest ∧
      Piece.Sound [] respannedMatch :=
  ⟨respanned_matches, spans_sound respanned_onward ⟨['→'], _, rfl, rfl⟩ respanned_matches⟩

/-- The first alternative reads further than the second, and is given up. -/
theorem respanned_given_up :
    respanned.Every [] Onward ∧ respannedMatch.entry.OnSymbol ∧
      Matches [] respanned respannedMatch.entry respannedMatch.value respannedMatch.rest ∧
      Attempts [] respannedMatch respannedAttempt ∧
      ∃ around span, respannedMatch.Records around ∧ respannedAttempt.Records span ∧
        ¬(around.start ≤ span.start ∧ span.stop ≤ around.stop) := by
  refine ⟨respanned_onward, ⟨['→'], _, rfl, rfl⟩, respanned_matches, respanned_attempts,
    ⟨_, 3, 7⟩, ⟨_, 3, 8⟩, ⟨⟨_, rfl⟩, rfl⟩, ⟨⟨_, rfl⟩, rfl⟩, by decide⟩

end Grammar

end Descent
