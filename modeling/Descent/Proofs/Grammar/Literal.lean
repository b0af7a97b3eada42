import Mathlib
import Descent.Proofs.Grammar.Regrouping

/-!
# A literal is the sequence of its symbols

A literal is compared with what is left as a whole and skipped by its bytes; the
sequence of its symbols goes forwards one symbol at a time. Either the literal
stands at the cursor, or the two texts part behind a common beginning
(`starts_or_partsAt`). The sequence has read that beginning when it fails
(`each_characters_failed`), and the byte it names lies so much behind its entry.
-/

namespace Descent

/-- Two texts part behind `common`: the first goes on with `symbol` there, and the second with
another one, `next`, or not at all. -/
structure Text.PartsAt (expected found common : Text) (symbol : Char) (next : Option Char) :
    Prop where
  expected_eq : ∃ later, expected = common ++ symbol :: later
  found_eq : ∃ after, found = common ++ after ∧ after.head? = next
  differ : next ≠ some symbol

theorem Text.starts_or_partsAt (expected found : Text) :
    expected <+: found ∨ ∃ common symbol next, PartsAt expected found common symbol next := by
  induction expected generalizing found with
  | nil => exact .inl List.nil_prefix
  | cons symbol expected ih =>
    cases found with
    | nil => exact .inr ⟨[], symbol, none, ⟨expected, rfl⟩, ⟨[], rfl, rfl⟩, nofun⟩
    | cons next found =>
      by_cases hsame : next = symbol
      · subst hsame
        rcases ih found with
          hstarts | ⟨common, symbol, after, ⟨later, rfl⟩, ⟨left, rfl, hleft⟩, hne⟩
        · exact .inl (List.cons_prefix_cons.mpr ⟨rfl, hstarts⟩)
        · exact .inr ⟨next :: common, symbol, after, ⟨later, rfl⟩, ⟨left, rfl, hleft⟩, hne⟩
      · refine .inr ⟨[], symbol, some next, ⟨expected, rfl⟩, ⟨next :: found, rfl, rfl⟩, ?_⟩
        simpa using hsame

theorem Text.PartsAt.not_starts (h : PartsAt expected found common symbol next) :
    ¬expected <+: found := by
  obtain ⟨⟨later, rfl⟩, ⟨after, rfl, hafter⟩, hne⟩ := h
  rw [List.prefix_append_right_inj]
  rintro ⟨left, rfl⟩
  exact hne hafter.symm

theorem Value.textOfAll_map_char (symbols : Text) : textOfAll (symbols.map .char) = symbols := by
  induction symbols with
  | nil => rfl
  | cons symbol symbols ih => simp [textOfAll, toText, ih]

theorem Cursor.Reads.behind {entry middle rest : Cursor} {first second : Text}
    (h : entry.Reads (first ++ second) rest) (hfirst : entry.Reads first middle) :
    middle.Reads second rest where
  source := h.source.trans hfirst.source.symm
  index := by rw [h.index, hfirst.index, Text.byteSize_append, Nat.add_assoc]
  remainder := by
    have hleft := hfirst.remainder.symm.trans h.remainder
    rwa [List.append_assoc, List.append_cancel_left_eq] at hleft

namespace Parser

variable {cursor middle rest : Cursor} {expected common : Text}

theorem character_reads (hcursor : cursor.OnSymbol) (h : cursor.Reads (symbol :: later) rest) :
    (character symbol cursor).outcome = .matched symbol (cursor.advance 1) ∧
      (cursor.advance 1).Reads later rest := by
  have hremainder : cursor.remainder = symbol :: (later ++ rest.remainder) := h.remainder
  have hfirst := Cursor.reads_advance hcursor 1
  rw [hremainder, List.take_succ_cons, List.take_zero] at hfirst
  refine ⟨character_matched.mpr ⟨?_, rfl, rfl⟩, Cursor.Reads.behind h hfirst⟩
  rw [Cursor.current, hremainder, List.head?_cons]

theorem threads_characters (hcursor : cursor.OnSymbol) (h : cursor.Reads expected rest) :
    Threads (expected.map character) cursor expected rest := by
  induction expected generalizing cursor with
  | nil =>
    rw [h.eq_of_nil]
    exact .nil
  | cons symbol later ih =>
    obtain ⟨hfirst, hlater⟩ := character_reads hcursor h
    exact .cons hfirst (ih ((Cursor.reads_advance hcursor 1).onSymbol hcursor) hlater)

theorem character_parted (hparts : Text.PartsAt expected cursor.remainder common symbol next)
    (hcommon : cursor.Reads common middle) :
    (character symbol middle).outcome =
      .failed (.new middle (.character symbol next middle.index)) := by
  obtain ⟨-, ⟨after, hafter, rfl⟩, hne⟩ := hparts
  have hmiddle : middle.remainder = after := by
    have hleft := hcommon.remainder.symm.trans hafter
    rwa [List.append_cancel_left_eq] at hleft
  have hcurrent : middle.current = after.head? := by rw [Cursor.current, hmiddle]
  rw [← hcurrent] at hne ⊢
  exact character_failed.mpr ⟨hne, rfl⟩

theorem each_characters_failed (hcursor : cursor.OnSymbol)
    (hparts : Text.PartsAt expected cursor.remainder common symbol next)
    (hcommon : cursor.Reads common middle) :
    (each (expected.map character) cursor).outcome =
      .failed (.new middle (.character symbol next middle.index)) := by
  have hfailed := character_parted hparts hcommon
  obtain ⟨later, rfl⟩ := hparts.expected_eq
  rw [each_failed]
  refine ⟨common.map character, character symbol, later.map character, common, middle, ?_,
    threads_characters hcursor hcommon, hfailed⟩
  rw [List.map_append, List.map_cons]

end Parser

namespace Grammar

variable {rules : Rules} {cursor middle rest : Cursor} {expected common : Text}

theorem literal_outcome (rules : Rules) (hcursor : cursor.OnSymbol) (expected : Text) :
    ((literal expected).parser rules cursor).outcome =
      (Parser.literal expected cursor).outcome.map .text := by
  rw [parser_outcome (literal_stays rules expected) hcursor (Nat.lt_succ_self _), assemble,
    Parser.map_outcome]

theorem character_outcome (rules : Rules) (hcursor : cursor.OnSymbol) (expected : Char) :
    ((character expected).parser rules cursor).outcome =
      (Parser.character expected cursor).outcome.map .char := by
  rw [parser_outcome (character_stays rules expected) hcursor (Nat.lt_succ_self _), assemble,
    Parser.map_outcome]

theorem list_characters_outcome (rules : Rules) (hcursor : cursor.OnSymbol) (expected : Text) :
    ((list (expected.map character)).parser rules cursor).outcome =
      ((Parser.each (expected.map Parser.character) cursor).outcome.map fun symbols =>
        Value.list (symbols.map .char)).anchored cursor := by
  have hlimit := Nat.lt_succ_self cursor.source.length
  have hlist : (list (expected.map character)).Every rules Stays :=
    stays_of_parts trivial (by simp [character_stays])
  have hrow : List.Forall₂ (Parser.Alike cursor.source)
      ((expected.map character).map (parser rules))
      ((expected.map Parser.character).map (Value.char <$> ·)) := by
    rw [List.map_map, List.map_map, List.forall₂_map_left_iff, List.forall₂_map_right_iff,
      List.forall₂_same]
    exact fun symbol _ => parser_alike (character_stays rules symbol) hlimit
  have hopened := (parser_alike hlist hlimit).trans (.map (.sequence hrow) Value.list)
  rw [hopened.outcome_eq (.rfl hcursor), Parser.map_outcome, Parser.sequence_outcome,
    Parser.each_map]
  cases (Parser.each (expected.map Parser.character) cursor).outcome <;> rfl

/-- What a literal and the sequence of its symbols come to, one beside the other. -/
inductive BySymbols (rules : Rules) (expected : Text) (cursor : Cursor) :
    Outcome Value → Outcome Value → Prop
  | matched {rest : Cursor} : cursor.Reads expected rest →
      (Value.list (expected.map .char)).toText = expected →
      BySymbols rules expected cursor (.matched (.text expected) rest)
        (.matched (.list (expected.map .char)) rest)
  /-- The sequence fails for the symbol at `middle`, where the literal and the text part. -/
  | failed {common : Text} {symbol : Char} {next : Option Char} {middle : Cursor}
      {failure failure' cause : Failure} :
      Text.PartsAt expected cursor.remainder common symbol next →
      failure.kind = .mismatch → failure.cursor = cursor →
      failure.message = "string failed to parse, found '".toList ++
        cursor.remainder.take (min expected.length cursor.remainder.length) ++
        "' expected '".toList ++ expected ++ "' at ".toList ++ Text.ofNat cursor.index →
      cursor.Reads common middle →
      ((character symbol).parser rules middle).outcome = .failed cause →
      failure'.kind = .composite → failure'.cursor = cursor → failure'.message = cause.message →
      failure'.message = "character failed to parse, found '".toList ++
        next.elim "end of input".toList ([·]) ++ "' expected '".toList ++ [symbol] ++
        "' at ".toList ++ Text.ofNat (cursor.index + common.byteSize) →
      BySymbols rules expected cursor (.failed failure) (.failed failure')

/-- A literal matches where the sequence of its symbols does, with the text of the same symbols and
up to the same cursor. Where they fail, the literal names as many symbols as it has, or all that are
left, and the sequence the first one that is not the expected. -/
theorem literal_by_symbols (rules : Rules) (expected : Text) (hcursor : cursor.OnSymbol) :
    BySymbols rules expected cursor ((literal expected).parser rules cursor).outcome
      ((list (expected.map character)).parser rules cursor).outcome := by
  rw [literal_outcome rules hcursor, list_characters_outcome rules hcursor]
  rcases Text.starts_or_partsAt expected cursor.remainder with
    hstarts | ⟨common, symbol, next, hparts⟩
  · obtain ⟨after, hafter⟩ := hstarts
    have hreads := Cursor.reads_skipBytes hcursor hafter.symm
    rw [Parser.literal_matched.mpr ⟨⟨after, hafter⟩, rfl, rfl⟩,
      Parser.each_matched.mpr (Parser.threads_characters hcursor hreads)]
    exact .matched hreads (Value.textOfAll_map_char expected)
  · obtain ⟨after, hafter, -⟩ := hparts.found_eq
    have hcommon := Cursor.reads_skipBytes hcursor hafter
    have hcause := character_outcome rules (hcommon.onSymbol hcursor) symbol
    rw [Parser.character_parted hparts hcommon] at hcause
    rw [Parser.literal_failed.mpr ⟨hparts.not_starts, rfl⟩,
      Parser.each_characters_failed hcursor hparts hcommon]
    refine .failed hparts rfl rfl ?_ hcommon hcause rfl rfl rfl ?_
    · rw [← List.take_eq_take_min]
      rfl
    · rw [← hcommon.index]
      cases next <;> rfl

theorem literal_by_symbols_short :
    BySymbols [] ['é', '→', 'x', 'y'] ⟨['a', 'é', '→'], 1⟩
      (.failed (.new ⟨['a', 'é', '→'], 1⟩ (.literal ['é', '→', 'x', 'y'] ['é', '→'] 1)))
      (.failed (.composite ⟨['a', 'é', '→'], 1⟩ (.character 'x' none 6))) := by
  have hliteral : ((literal ['é', '→', 'x', 'y']).parser [] ⟨['a', 'é', '→'], 1⟩).outcome =
      .failed (.new ⟨['a', 'é', '→'], 1⟩ (.literal ['é', '→', 'x', 'y'] ['é', '→'] 1)) := by cbv
  have hlist : ((list (['é', '→', 'x', 'y'].map character)).parser []
      ⟨['a', 'é', '→'], 1⟩).outcome =
      .failed (.composite ⟨['a', 'é', '→'], 1⟩ (.character 'x' none 6)) := by cbv
  rw [← hliteral, ← hlist]
  exact literal_by_symbols [] ['é', '→', 'x', 'y'] ⟨['a'], ['é', '→'], rfl, rfl⟩

end Grammar

end Descent
