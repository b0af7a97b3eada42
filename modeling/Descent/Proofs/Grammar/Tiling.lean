import Mathlib
import Descent.Proofs.Grammar.Alike
import Descent.Proofs.Grammar.Spans

/-!
# Spans that are recorded in a row tile what was read

Parsers that record their spans and match one behind the other leave spans that
stand one behind the other (`Threads.abuts`). A sequence, a repetition and an
interposed list keep such a row: the attempt that ends a loop is not in it, even
if a part of it had matched and recorded a span.

The parsers must not go back. Otherwise a span may run backwards and has neither
a length nor a text, although the next one still starts where it ends.
-/

namespace Descent

theorem Text.byteSize_flatten (texts : List Text) :
    byteSize texts.flatten = (texts.map byteSize).sum := by
  induction texts with
  | nil => rfl
  | cons text texts ih => simp [ih]

theorem forall_mem_interposed {α : Type} {property : α → Prop} {item separator : α}
    (hitem : property item) (hseparator : property separator) (rounds : Nat) :
    ∀ part ∈ item :: (List.replicate rounds [separator, item]).flatten, property part := by
  simp only [List.forall_mem_cons, List.mem_flatten, List.mem_replicate]
  refine ⟨hitem, ?_⟩
  rintro part ⟨pair, ⟨-, rfl⟩, hpart⟩
  rcases List.mem_pair.mp hpart with rfl | rfl
  · exact hseparator
  · exact hitem

/-- Spans that begin at one cursor, follow each other and end at another, and their texts. -/
inductive Abut : Cursor → List Span → List Text → Cursor → Prop
  | nil : Abut cursor [] [] cursor
  | cons {cursor middle : Cursor} : cursor.OnSymbol → cursor.Reads text middle →
      Abut middle spans texts rest →
      Abut cursor (⟨cursor.source, cursor.index, middle.index⟩ :: spans) (text :: texts) rest

namespace Abut

variable {cursor rest : Cursor} {spans : List Span} {texts : List Text}

theorem reads (h : Abut cursor spans texts rest) : cursor.Reads texts.flatten rest := by
  induction h with
  | nil => exact .rfl
  | cons _ hreads _ ih => exact hreads.trans ih

theorem source_eq (h : Abut cursor spans texts rest) :
    ∀ span ∈ spans, span.source = cursor.source := by
  induction h with
  | nil => simp
  | cons _ hreads _ ih =>
    intro span hspan
    rcases List.mem_cons.mp hspan with rfl | hspan
    · rfl
    · exact (ih span hspan).trans hreads.source

theorem first (h : Abut cursor spans texts rest) :
    ∀ span ∈ spans.head?, span.start = cursor.index := by
  cases h <;> simp

theorem contiguous (h : Abut cursor spans texts rest) :
    spans.IsChain fun span next => span.stop = next.start := by
  induction h with
  | nil => exact .nil
  | cons _ _ hlater ih =>
    exact List.isChain_cons.mpr ⟨fun next hnext => (hlater.first next hnext).symm, ih⟩

theorem last (h : Abut cursor spans texts rest) :
    ∀ span ∈ spans.getLast?, span.stop = rest.index := by
  induction h with
  | nil => simp
  | cons _ _ hlater ih =>
    cases hlater with
    | nil => simp
    | cons => simpa only [List.getLast?_cons_cons] using ih

theorem lengths (h : Abut cursor spans texts rest) :
    spans.map Span.length? = (texts.map Text.byteSize).map some := by
  induction h with
  | nil => rfl
  | @cons text _ _ _ cursor middle _ hreads _ ih =>
    have hlength : Span.length? ⟨cursor.source, cursor.index, middle.index⟩ =
        some text.byteSize := by
      rw [Span.length?, if_pos hreads.index_le, hreads.index, Nat.add_sub_cancel_left]
    simp only [List.map_cons, hlength, ih]

theorem slices (h : Abut cursor spans texts rest) : spans.map Span.slice? = texts.map some := by
  induction h with
  | nil => rfl
  | cons hcursor hreads _ ih =>
    simp only [List.map_cons, ih, Span.slice?, hreads.slice?_eq hcursor]

end Abut

namespace Parser

def Forward (parser : Parser α) : Prop :=
  ∀ ⦃cursor value rest⦄, cursor.OnSymbol → (parser cursor).outcome = .matched value rest →
    Cursor.On cursor.source rest ∧ cursor.index ≤ rest.index

/-- Values and spans of a row of parsers that match one behind the other. The spans tile what is
read: no gap, no overlap, and none but those of the row. -/
structure Tiled (row : List (Parser α)) (entry : Cursor) (found : List (α × Span)) (rest : Cursor) :
    Prop where
  kept : Threads (row.map indexed) entry found rest
  source : ∀ span ∈ found.map Prod.snd, span.source = entry.source
  first : ∀ span ∈ (found.map Prod.snd).head?, span.start = entry.index
  contiguous : (found.map Prod.snd).IsChain fun span next => span.stop = next.start
  last : ∀ span ∈ (found.map Prod.snd).getLast?, span.stop = rest.index
  empty : found = [] → rest = entry
  lengths : ∃ lengths : List Nat, (found.map Prod.snd).map Span.length? = lengths.map some ∧
    entry.index + lengths.sum = rest.index
  slices : ∃ texts : List Text, (found.map Prod.snd).map Span.slice? = texts.map some ∧
    entry.source.slice? entry.index rest.index = some texts.flatten

variable {α : Type} {row : List (Parser α)} {cursor rest : Cursor} {found : List (α × Span)}

theorem Threads.abuts (h : Threads (row.map indexed) cursor found rest)
    (hrow : ∀ parser ∈ row, parser.Forward) (hcursor : cursor.OnSymbol) :
    ∃ texts, Abut cursor (found.map Prod.snd) texts rest := by
  induction row generalizing cursor found with
  | nil =>
    cases h
    exact ⟨[], .nil⟩
  | cons parser row ih =>
    obtain ⟨hfirst, hlater⟩ := List.forall_mem_cons.mp hrow
    cases h with
    | @cons _ pair middle _ _ _ _ hindexed hthreads =>
      obtain ⟨value, span⟩ := pair
      obtain ⟨hmatched, rfl⟩ := indexed_matched.mp hindexed
      obtain ⟨hmiddle, hle⟩ := hfirst hcursor hmatched
      obtain ⟨text, hreads⟩ := (Cursor.On.rfl hcursor).exists_reads hmiddle hle
      obtain ⟨texts, habut⟩ := ih hthreads hlater hmiddle.onSymbol
      exact ⟨text :: texts, .cons hcursor hreads habut⟩

theorem Threads.tiled (h : Threads (row.map indexed) cursor found rest)
    (hrow : ∀ parser ∈ row, parser.Forward) (hcursor : cursor.OnSymbol) :
    Tiled row cursor found rest := by
  obtain ⟨texts, habut⟩ := h.abuts hrow hcursor
  have hreads := habut.reads
  refine ⟨h, habut.source_eq, habut.first, habut.contiguous, habut.last, ?_,
    ⟨texts.map Text.byteSize, habut.lengths, ?_⟩,
    ⟨texts, habut.slices, hreads.slice?_eq hcursor⟩⟩
  · rintro rfl
    cases habut
    rfl
  · rw [hreads.index, Text.byteSize_flatten]

theorem threads_of_linked {dangling : Nat → Event} {link item : Parser α} {pairs : List (α × α)}
    (h : Threads (List.replicate rounds (linked dangling link item)) cursor pairs rest) :
    Threads (List.replicate rounds [link, item]).flatten cursor
      (pairs.flatMap fun (link, value) => [link, value]) rest := by
  induction rounds generalizing cursor pairs with
  | zero =>
    cases h
    exact .nil
  | succ rounds ih =>
    cases h with
    | cons hpair hlater =>
      obtain ⟨middle, hlink, hitem⟩ := linked_matched.mp hpair
      exact .cons hlink (.cons hitem (ih hlater))

theorem many_tiled {parser : Parser α} (hparser : parser.Forward) (hcursor : cursor.OnSymbol)
    (h : (parser.indexed.many limit least cursor).outcome = .matched found rest) :
    ∃ rounds, Tiled (List.replicate rounds parser) cursor found rest := by
  obtain ⟨-, hrounds, -⟩ := star_matched.mp (many_matched.mp h).1
  rw [← List.map_replicate] at hrounds
  refine ⟨found.length, hrounds.tiled (fun part hpart => ?_) hcursor⟩
  rwa [List.eq_of_mem_replicate hpart]

theorem interpose_tiled {item separator : Parser α} (hitem : item.Forward)
    (hseparator : separator.Forward) (hcursor : cursor.OnSymbol)
    (h : (item.indexed.interpose limit separator.indexed cursor).outcome = .matched found rest) :
    ∃ rounds, Tiled (item :: (List.replicate rounds [separator, item]).flatten) cursor found
      rest := by
  obtain ⟨first, pairs, hchain, rfl⟩ := interpose_matched.mp h
  obtain ⟨middle, hfirst, hstar⟩ := chain_matched.mp hchain
  obtain ⟨-, hrounds, -⟩ := star_matched.mp hstar
  have hthreads := Threads.cons hfirst (threads_of_linked hrounds)
  refine ⟨pairs.length, Threads.tiled ?_ ?_ hcursor⟩
  · simpa [List.map_flatten] using hthreads
  · exact forall_mem_interposed hitem hseparator pairs.length

end Parser

namespace Grammar

structure Forward (rules : Rules) (grammar : Grammar) : Prop where
  stays : grammar.Every rules Stays
  index_le : ∀ {cursor value rest}, cursor.OnSymbol → Matches rules grammar cursor value rest →
    cursor.index ≤ rest.index

/-- The list of the values of a row of grammars, each with its span, and these tile what is read. -/
def Tiles (rules : Rules) (row : List Grammar) (entry : Cursor) (value : Value) (rest : Cursor) :
    Prop :=
  ∃ found : List (Value × Span),
    value = .list (found.map fun (value, span) => .spanned value span) ∧
    Parser.Tiled (row.map (parser rules)) entry found rest

variable {rules : Rules} {grammar body item separator : Grammar} {row : List Grammar}
  {cursor rest : Cursor} {value : Value} {values : List Value}

theorem Forward.parser (h : grammar.Forward rules) : (grammar.parser rules).Forward :=
  fun _ _ _ hcursor hmatched =>
    ⟨Matches.on hmatched h.stays (.rfl hcursor), h.index_le hcursor hmatched⟩

theorem Every.forward (h : grammar.Every rules Onward) : grammar.Forward rules :=
  ⟨h.stays_of_onward, fun hcursor hmatched => Matches.forward hmatched h hcursor⟩

theorem indexed_stays (h : body.Every rules Stays) : (indexed body).Every rules Stays :=
  stays_of_parts trivial (by simpa using h)

theorem Matches.of_indexed (h : Matches rules (indexed body) cursor value rest)
    (hbody : body.Every rules Stays) (hcursor : cursor.OnSymbol) :
    ∃ found span, value = .spanned found span ∧
      ((body.parser rules).indexed cursor).outcome = .matched (found, span) rest := by
  cases h.matching (indexed_stays hbody) hcursor with
  | indexed hmatched => exact ⟨_, _, rfl, Parser.indexed_matched.mpr ⟨hmatched, rfl⟩⟩
  | parts _ _ hbuilds => cases hbuilds

theorem Threaded.of_indexed (h : Threaded (Matches rules) (row.map indexed) cursor values rest)
    (hrow : ∀ part ∈ row, part.Every rules Stays) (hcursor : cursor.OnSymbol) :
    ∃ found : List (Value × Span), values = found.map (fun (value, span) => .spanned value span) ∧
      Parser.Threads ((row.map (parser rules)).map .indexed) cursor found rest := by
  induction row generalizing cursor values with
  | nil =>
    cases h
    exact ⟨[], rfl, .nil⟩
  | cons part row ih =>
    obtain ⟨hpart, hlater⟩ := List.forall_mem_cons.mp hrow
    cases h with
    | cons hmatched hthreaded =>
      have hmiddle := hmatched.on (indexed_stays hpart) (.rfl hcursor)
      obtain ⟨first, span, rfl, hfirst⟩ := hmatched.of_indexed hpart hcursor
      obtain ⟨found, rfl, hfound⟩ := ih hthreaded hlater hmiddle.onSymbol
      exact ⟨(first, span) :: found, rfl, .cons hfirst hfound⟩

theorem Threaded.tiles (h : Threaded (Matches rules) (row.map indexed) cursor values rest)
    (hrow : ∀ part ∈ row, part.Forward rules) (hcursor : cursor.OnSymbol) :
    Tiles rules row cursor (.list values) rest := by
  obtain ⟨found, rfl, hfound⟩ := h.of_indexed (fun part hpart => (hrow part hpart).stays) hcursor
  refine ⟨found, rfl, hfound.tiled ?_ hcursor⟩
  simp only [List.forall_mem_map]
  exact fun part hpart => (hrow part hpart).parser

theorem list_tiles (hrow : ∀ part ∈ row, part.Forward rules) (hcursor : cursor.OnSymbol)
    (h : Matches rules (list (row.map indexed)) cursor value rest) :
    Tiles rules row cursor value rest := by
  have hstays : (list (row.map indexed)).Every rules Stays :=
    stays_of_parts trivial (by simpa using fun part hpart => indexed_stays (hrow part hpart).stays)
  cases h.matching hstays hcursor with
  | parts hunrolls hthreaded hbuilds =>
    cases hunrolls
    cases hbuilds
    exact hthreaded.tiles hrow hcursor

theorem many_tiles (hbody : body.Forward rules) (hcursor : cursor.OnSymbol)
    (h : Matches rules (many (indexed body) least) cursor value rest) :
    ∃ rounds, Tiles rules (List.replicate rounds body) cursor value rest := by
  have hstays : (many (indexed body) least).Every rules Stays :=
    stays_of_parts trivial (by simpa using indexed_stays hbody.stays)
  cases h.matching hstays hcursor with
  | parts hunrolls hthreaded hbuilds =>
    cases hunrolls with
    | many rounds =>
      cases hbuilds
      rw [← List.map_replicate] at hthreaded
      refine ⟨rounds, hthreaded.tiles (fun part hpart => ?_) hcursor⟩
      rwa [List.eq_of_mem_replicate hpart]

theorem interpose_tiles (hitem : item.Forward rules) (hseparator : separator.Forward rules)
    (hcursor : cursor.OnSymbol)
    (h : Matches rules (interpose (indexed item) (indexed separator)) cursor value rest) :
    ∃ rounds, Tiles rules (item :: (List.replicate rounds [separator, item]).flatten) cursor value
      rest := by
  have hstays : (interpose (indexed item) (indexed separator)).Every rules Stays :=
    stays_of_parts trivial (by simp [indexed_stays hitem.stays, indexed_stays hseparator.stays])
  cases h.matching hstays hcursor with
  | parts hunrolls hthreaded hbuilds =>
    cases hunrolls with
    | interpose rounds =>
      cases hbuilds
      refine ⟨rounds, Threaded.tiles ?_ ?_ hcursor⟩
      · simpa [List.map_flatten] using hthreaded
      · exact forall_mem_interposed hitem hseparator rounds

/-- The spans that a sequence, a repetition or an interposed list records of its parts tile what it
read, whatever the parts are that do not go back. -/
theorem spans_tile :
    (∀ {α : Type} {cursor rest : Cursor} {found : List (α × Span)}, cursor.OnSymbol →
      (∀ row : List (Parser α), (∀ parser ∈ row, parser.Forward) →
        (Parser.sequence (row.map .indexed) cursor).outcome = .matched found rest →
        Parser.Tiled row cursor found rest) ∧
      (∀ (limit least : Nat) (parser : Parser α), parser.Forward →
        (parser.indexed.many limit least cursor).outcome = .matched found rest →
        ∃ rounds, Parser.Tiled (List.replicate rounds parser) cursor found rest) ∧
      ∀ (limit : Nat) (item separator : Parser α), item.Forward → separator.Forward →
        (item.indexed.interpose limit separator.indexed cursor).outcome = .matched found rest →
        ∃ rounds, Parser.Tiled (item :: (List.replicate rounds [separator, item]).flatten) cursor
          found rest) ∧
    ∀ {rules : Rules} {cursor rest : Cursor} {value : Value}, cursor.OnSymbol →
      (∀ row : List Grammar, (∀ part ∈ row, part.Forward rules) →
        ((list (row.map indexed)).parser rules cursor).outcome = .matched value rest →
        Tiles rules row cursor value rest) ∧
      (∀ (least : Nat) (body : Grammar), body.Forward rules →
        ((many (indexed body) least).parser rules cursor).outcome = .matched value rest →
        ∃ rounds, Tiles rules (List.replicate rounds body) cursor value rest) ∧
      ∀ item separator : Grammar, item.Forward rules → separator.Forward rules →
        ((interpose (indexed item) (indexed separator)).parser rules cursor).outcome =
          .matched value rest →
        ∃ rounds, Tiles rules (item :: (List.replicate rounds [separator, item]).flatten) cursor
          value rest := by
  constructor
  · intro α cursor rest found hcursor
    refine ⟨fun row hrow h => ?_, fun limit least parser hparser h => ?_,
      fun limit item separator hitem hseparator h => ?_⟩
    · exact (Parser.sequence_matched.mp h).tiled hrow hcursor
    · exact Parser.many_tiled hparser hcursor h
    · exact Parser.interpose_tiled hitem hseparator hcursor h
  · intro rules cursor rest value hcursor
    refine ⟨fun row hrow h => ?_, fun least body hbody h => ?_,
      fun item separator hitem hseparator h => ?_⟩
    · exact list_tiles hrow hcursor h
    · exact many_tiles hbody hcursor h
    · exact interpose_tiles hitem hseparator hcursor h

theorem character_forward (rules : Rules) (symbol : Char) : (character symbol).Forward rules :=
  (every_of_calls trivial (by simp) : (character symbol).Every rules Onward).forward

theorem spans_tile_dangling :
    ((interpose (indexed (character 'a')) (indexed (character '→'))).parser []
        ⟨['é', 'a', '→', 'a', '→'], 2⟩).outcome =
      .matched
        (.list [.spanned (.char 'a') ⟨['é', 'a', '→', 'a', '→'], 2, 3⟩,
          .spanned (.char '→') ⟨['é', 'a', '→', 'a', '→'], 3, 6⟩,
          .spanned (.char 'a') ⟨['é', 'a', '→', 'a', '→'], 6, 7⟩])
        ⟨['é', 'a', '→', 'a', '→'], 7⟩ ∧
      ∃ rounds, Tiles [] (character 'a' :: (List.replicate rounds
          [character '→', character 'a']).flatten)
        ⟨['é', 'a', '→', 'a', '→'], 2⟩
        (.list [.spanned (.char 'a') ⟨['é', 'a', '→', 'a', '→'], 2, 3⟩,
          .spanned (.char '→') ⟨['é', 'a', '→', 'a', '→'], 3, 6⟩,
          .spanned (.char 'a') ⟨['é', 'a', '→', 'a', '→'], 6, 7⟩])
        ⟨['é', 'a', '→', 'a', '→'], 7⟩ := by
  have hcursor : Cursor.OnSymbol ⟨['é', 'a', '→', 'a', '→'], 2⟩ := ⟨['é'], _, rfl, rfl⟩
  refine ⟨?hmatched, (spans_tile.2 hcursor).2.2 _ _ (character_forward [] 'a')
    (character_forward [] '→') ?hmatched⟩
  cbv

end Grammar

end Descent
