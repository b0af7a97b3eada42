import Mathlib
import Descent.Proofs.Position

/-!
# Locations are coordinates

A text is cut into lines at its newlines (`lines_eq_splitOn`), and where a text
is cut in two, only the line at the cut is shared: its first part ends the lines
of one half and its second part begins those of the other (`lines_append`). So
a cursor stands on one line, behind one part of it (`Cursor.Stands`), and line
and offset tell its byte. They count the newlines before the cursor, and from the
last of them (`Location.of_eq_lineStart`). Every line and every place in it is reached, each
from one byte, and later bytes have later locations (`location_faithful`).
-/

namespace Descent

namespace Text

-- ---------------------------------------------------------------------------
-- Lines
-- ---------------------------------------------------------------------------

theorem lines_newline (rest : Text) : lines ('\n' :: rest) = [] :: lines rest := rfl

theorem lines_symbol {rest : Text} (hsymbol : symbol ≠ '\n') (hrest : rest.lines = line :: more) :
    lines (symbol :: rest) = (symbol :: line) :: more := by
  rw [lines, if_neg hsymbol, hrest]

theorem lines_ne_nil (text : Text) : text.lines ≠ [] := by
  cases text with
  | nil => exact List.cons_ne_nil _ _
  | cons symbol rest =>
    rw [lines]
    split
    · exact List.cons_ne_nil _ _
    · split <;> exact List.cons_ne_nil _ _

theorem lines_induction {motive : Text → Prop} (nil : motive [])
    (newline : ∀ rest, motive rest → motive ('\n' :: rest))
    (within : ∀ symbol rest line more, symbol ≠ '\n' → lines rest = line :: more → motive rest →
      motive (symbol :: rest))
    (text : Text) : motive text := by
  induction text with
  | nil => exact nil
  | cons symbol rest ih =>
    by_cases hsymbol : symbol = '\n'
    · exact hsymbol ▸ newline rest ih
    · obtain ⟨line, more, hrest⟩ := List.exists_cons_of_ne_nil (lines_ne_nil rest)
      exact within symbol rest line more hsymbol hrest ih

theorem lines_eq_splitOn (text : Text) : text.lines = text.splitOn '\n' := by
  induction text using lines_induction with
  | nil => rfl
  | newline rest ih =>
    rw [lines_newline, ih, List.splitOn, List.splitOn, List.splitOnP_cons_eq_if_modifyHead]
    rfl
  | within symbol rest line more hsymbol hrest ih =>
    rw [List.splitOn, List.splitOnP_cons_eq_if_modifyHead, ← List.splitOn, ← ih, hrest,
      lines_symbol hsymbol hrest, if_neg (by simpa using hsymbol), List.modifyHead_cons]

theorem lines_injective {first second : Text} (h : first.lines = second.lines) :
    first = second := by
  rw [lines_eq_splitOn, lines_eq_splitOn] at h
  have hjoin := congrArg ['\n'].intercalate h
  rwa [List.intercalate_splitOn, List.intercalate_splitOn] at hjoin

theorem newline_not_mem_lines (text : Text) : ∀ line ∈ text.lines, '\n' ∉ line := by
  induction text using lines_induction with
  | nil => simp [lines]
  | newline rest ih => simpa [lines_newline] using ih
  | within symbol rest line more hsymbol hrest ih =>
    rw [hrest, List.forall_mem_cons] at ih
    rw [lines_symbol hsymbol hrest, List.forall_mem_cons, List.mem_cons, not_or]
    exact ⟨⟨hsymbol.symm, ih.1⟩, ih.2⟩

theorem exists_lines_eq {all : List Text} (hall : ∀ line ∈ all, '\n' ∉ line) (hne : all ≠ []) :
    ∃ text : Text, text.lines = all :=
  ⟨['\n'].intercalate all, by rw [lines_eq_splitOn, List.splitOn_intercalate _ hall hne]⟩

theorem lines_append {first second : Text} (hfirst : first.lines = earlier ++ [ahead])
    (hsecond : second.lines = behind :: later) :
    (first ++ second).lines = earlier ++ (ahead ++ behind) :: later := by
  induction first using lines_induction generalizing earlier ahead with
  | nil =>
    cases earlier with
    | nil =>
      obtain ⟨rfl, -⟩ := List.cons.inj hfirst
      exact hsecond
    | cons line earlier => simp [lines] at hfirst
  | newline rest ih =>
    cases earlier with
    | nil => exact absurd (List.cons.inj hfirst).2 (lines_ne_nil rest)
    | cons line earlier =>
      obtain ⟨rfl, hrest⟩ := List.cons.inj hfirst
      exact congrArg ([] :: ·) (ih hrest)
  | within symbol rest line more hsymbol hrest ih =>
    rw [lines_symbol hsymbol hrest] at hfirst
    cases earlier with
    | nil =>
      obtain ⟨rfl, rfl⟩ := List.cons.inj hfirst
      exact lines_symbol hsymbol (@ih [] _ hrest)
    | cons first earlier =>
      obtain ⟨rfl, rfl⟩ := List.cons.inj hfirst
      exact lines_symbol hsymbol (@ih (line :: earlier) _ hrest)

theorem exists_append_of_lines {text : Text} {earlier later : List Text} {ahead behind : Text}
    (h : text.lines = earlier ++ (ahead ++ behind) :: later) :
    ∃ first second, text = first ++ second ∧ first.lines = earlier ++ [ahead] ∧
      second.lines = behind :: later := by
  have hfree := newline_not_mem_lines text
  rw [h, List.forall_mem_append, List.forall_mem_cons, List.mem_append, not_or] at hfree
  obtain ⟨hearlier, ⟨hahead, hbehind⟩, hlater⟩ := hfree
  obtain ⟨first, hfirst⟩ : ∃ first : Text, first.lines = earlier ++ [ahead] :=
    exists_lines_eq (List.forall_mem_append.mpr ⟨hearlier, by simpa using hahead⟩) (by simp)
  obtain ⟨second, hsecond⟩ : ∃ second : Text, second.lines = behind :: later :=
    exists_lines_eq (List.forall_mem_cons.mpr ⟨hbehind, hlater⟩) (by simp)
  exact ⟨first, second, lines_injective (h.trans (lines_append hfirst hsecond).symm), hfirst,
    hsecond⟩

theorem sum_lines (text : Text) : (text.lines.map (byteSize · + 1)).sum = text.byteSize + 1 := by
  induction text using lines_induction with
  | nil => rfl
  | newline rest ih =>
    rw [lines_newline, List.map_cons, List.sum_cons, ih, byteSize_cons]
    rfl
  | within symbol rest line more hsymbol hrest ih =>
    rw [hrest, List.map_cons, List.sum_cons] at ih
    rw [lines_symbol hsymbol hrest, List.map_cons, List.sum_cons, byteSize_cons, byteSize_cons]
    omega

theorem length_lines (text : Text) : text.lines.length = text.count '\n' + 1 := by
  induction text using lines_induction with
  | nil => rfl
  | newline rest ih => rw [lines_newline, List.length_cons, ih, List.count_cons_self]
  | within symbol rest line more hsymbol hrest ih =>
    rw [lines_symbol hsymbol hrest, List.count_cons_of_ne hsymbol, ← ih, hrest, List.length_cons,
      List.length_cons]

theorem head_lines {text : Text} (h : text.lines = line :: more) :
    line = text.takeWhile (· != '\n') := by
  induction text using lines_induction generalizing line more with
  | nil => exact (List.cons.inj h).1.symm
  | newline rest ih => exact (List.cons.inj h).1.symm
  | within symbol rest first others hsymbol hrest ih =>
    rw [lines_symbol hsymbol hrest] at h
    rw [← (List.cons.inj h).1, List.takeWhile_cons_of_pos (by simpa using hsymbol), ← ih hrest]

/-- Where the last line of a text begins: behind its last newline, or at the start. -/
def lineStart (text : Text) : Nat := byteSize (text.rdropWhile (· != '\n'))

theorem lineStart_add_last (text : Text) :
    text.lineStart + byteSize (text.lines.getLastD []) = text.byteSize := by
  induction text using List.reverseRecOn with
  | nil => rfl
  | append_singleton text symbol ih =>
    have hlines := List.dropLast_concat_getLast (lines_ne_nil text)
    rw [← hlines, List.getLastD_concat] at ih
    by_cases hsymbol : symbol = '\n'
    · subst hsymbol
      have hnewline : lines (text ++ ['\n']) = _ :=
        lines_append hlines.symm (lines_newline [])
      have hstart : lineStart (text ++ ['\n']) = byteSize (text ++ ['\n']) := by
        rw [lineStart, List.rdropWhile_concat_neg _ _ _ (by simp)]
      rw [hstart, hnewline]
      simp [lines]
    · have hsame : lines (text ++ [symbol]) = _ :=
        lines_append hlines.symm (lines_symbol hsymbol rfl)
      have hstart : lineStart (text ++ [symbol]) = lineStart text := by
        rw [lineStart, List.rdropWhile_concat_pos _ _ _ (by simpa using hsymbol), lineStart]
      rw [hstart, hsame, List.getLastD_concat, byteSize_append, byteSize_append]
      omega

end Text

/-- The line is counted by the newlines before a place, and the offset from the last of them. -/
theorem Location.of_eq_lineStart {source : Text} (h : Cursor.OnSymbol ⟨source, index⟩) :
    (Cursor.before ⟨source, index⟩).lineStart ≤ index ∧
      Location.of source index = ⟨(Cursor.before ⟨source, index⟩).count '\n' + 1,
        index - (Cursor.before ⟨source, index⟩).lineStart⟩ := by
  obtain ⟨first, second, rfl, rfl⟩ := h
  have hbefore : Cursor.before ⟨first ++ second, first.byteSize⟩ = first := by
    rw [Cursor.before, Text.takeBytes?_append, Option.getD_some]
  have hlast := first.lineStart_add_last
  rw [hbefore, Location.of, Text.takeBytes?_append, Option.getD_some, Text.length_lines]
  exact ⟨by omega, by congr; omega⟩

-- ---------------------------------------------------------------------------
-- Lines and places
-- ---------------------------------------------------------------------------

/-- The cursor stands on the line behind the lines `earlier`: behind `ahead`, which is of that line,
with `behind` of it to come, and with the lines `later` below. -/
structure Cursor.Stands (source : Text) (cursor : Cursor) (earlier : List Text)
    (ahead behind : Text) (later : List Text) : Prop where
  lines : source.lines = earlier ++ (ahead ++ behind) :: later
  location : cursor.location = ⟨earlier.length + 1, ahead.byteSize⟩
  index : cursor.index = (earlier.map (Text.byteSize · + 1)).sum + ahead.byteSize
  newlines : earlier.length = cursor.before.count '\n'
  behind_eq : behind = cursor.remainder.takeWhile (· != '\n')

theorem Cursor.stands_of_lines {first second : Text} (hfirst : first.lines = earlier ++ [ahead])
    (hsecond : second.lines = behind :: later) :
    Stands (first ++ second) ⟨first ++ second, first.byteSize⟩ earlier ahead behind later := by
  have htake := Text.takeBytes?_append first second
  have hsum := Text.sum_lines first
  have hlength := Text.length_lines first
  rw [hfirst, List.map_append, List.sum_append, List.map_singleton, List.sum_singleton] at hsum
  rw [hfirst, List.length_append, List.length_singleton, Nat.add_right_cancel_iff] at hlength
  refine ⟨Text.lines_append hfirst hsecond, ?_, by dsimp only; omega, ?_, ?_⟩
  · rw [location, Location.of, htake, Option.getD_some, hfirst]
    simp
  · rw [before, htake, Option.getD_some, hlength]
  · have hremainder : remainder ⟨first ++ second, first.byteSize⟩ = second :=
      remainder_of_split rfl rfl
    rw [hremainder]
    exact Text.head_lines hsecond

theorem Cursor.On.exists_stands {source : Text} {cursor : Cursor} (h : On source cursor) :
    ∃ earlier ahead behind later, Stands source cursor earlier ahead behind later := by
  obtain ⟨source, index⟩ := cursor
  obtain ⟨rfl, first, second, rfl, rfl⟩ := h
  obtain ⟨behind, later, hsecond⟩ := List.exists_cons_of_ne_nil (Text.lines_ne_nil second)
  have hfirst := List.dropLast_concat_getLast (Text.lines_ne_nil first)
  exact ⟨_, _, behind, later, stands_of_lines hfirst.symm hsecond⟩

theorem Cursor.exists_stands_of_lines {source : Text}
    (h : source.lines = earlier ++ (ahead ++ behind) :: later) :
    ∃ cursor, On source cursor ∧ Stands source cursor earlier ahead behind later := by
  obtain ⟨first, second, rfl, hfirst, hsecond⟩ := Text.exists_append_of_lines h
  exact ⟨⟨first ++ second, first.byteSize⟩, ⟨rfl, first, second, rfl, rfl⟩,
    stands_of_lines hfirst hsecond⟩

namespace Location

structure On (source : Text) (location : Location) : Prop where
  line_pos : 1 ≤ location.line
  line_le : location.line ≤ source.lines.length
  offset : ∃ line, source.lines[location.line - 1]? = some line ∧
    location.byteOffset ≤ line.byteSize ∧ Cursor.OnSymbol ⟨line, location.byteOffset⟩

/-- The byte at a location: the lines above, a newline behind each, and the offset. -/
def index (source : Text) (location : Location) : Nat :=
  ((source.lines.take (location.line - 1)).map (Text.byteSize · + 1)).sum + location.byteOffset

end Location

section
variable {source : Text} {cursor : Cursor} {earlier later : List Text} {ahead behind : Text}

theorem Cursor.Stands.location_on (h : Stands source cursor earlier ahead behind later) :
    cursor.location.On source := by
  rw [h.location]
  refine ⟨by simp, ?_, ahead ++ behind, ?_, ?_, ahead, behind, rfl, rfl⟩
  · rw [h.lines, List.length_append, List.length_cons]
    dsimp only
    omega
  · simp [h.lines]
  · rw [Text.byteSize_append]
    exact Nat.le_add_right _ _

theorem Cursor.Stands.index_location (h : Stands source cursor earlier ahead behind later) :
    cursor.location.index source = cursor.index := by
  rw [h.location, h.index, Location.index, h.lines, Nat.add_sub_cancel, List.take_left]

theorem Location.On.exists_stands {location : Location} (h : location.On source) :
    ∃ cursor earlier ahead behind later, Cursor.On source cursor ∧
      cursor.Stands source earlier ahead behind later ∧ cursor.location = location := by
  obtain ⟨line, offset⟩ := location
  obtain ⟨hpos, -, text, htext, -, ahead, behind, rfl, rfl⟩ := h
  obtain ⟨hlt, htext⟩ := List.getElem?_eq_some_iff.mp htext
  have hlines := List.take_append_drop (line - 1) source.lines
  rw [List.drop_eq_getElem_cons hlt, htext] at hlines
  obtain ⟨cursor, hcursor, hstands⟩ := Cursor.exists_stands_of_lines hlines.symm
  refine ⟨cursor, _, _, _, _, hcursor, hstands, ?_⟩
  rw [hstands.location, List.length_take_of_le (Nat.le_of_lt hlt), Nat.sub_add_cancel hpos]

theorem Location.On.index_lt_of_line_lt {first second : Location} (hfirst : first.On source)
    (hline : first.line < second.line) : first.index source < second.index source := by
  obtain ⟨hpos, -, text, htext, hoffset, -⟩ := hfirst
  obtain ⟨above, habove⟩ : ∃ above, source.lines.take (second.line - 1) =
      source.lines.take (first.line - 1) ++ text :: above := by
    obtain ⟨hlt, htext⟩ := List.getElem?_eq_some_iff.mp htext
    have htake : (source.lines.take (second.line - 1)).take (first.line - 1 + 1) =
        source.lines.take (first.line - 1) ++ [text] := by
      rw [List.take_take, Nat.min_eq_left (by omega), List.take_succ_eq_append_getElem hlt, htext]
    refine ⟨(source.lines.take (second.line - 1)).drop (first.line - 1 + 1), ?_⟩
    rw [← List.singleton_append, ← List.append_assoc, ← htake, List.take_append_drop]
  rw [index, index, habove, List.map_append, List.sum_append, List.map_cons, List.sum_cons]
  omega

theorem Location.On.index_lt {first second : Location} (hfirst : first.On source)
    (h : toLex (first.line, first.byteOffset) < toLex (second.line, second.byteOffset)) :
    first.index source < second.index source := by
  rcases Prod.Lex.toLex_lt_toLex.mp h with hline | ⟨hline, hoffset⟩
  · exact hfirst.index_lt_of_line_lt hline
  · dsimp only at hline hoffset
    rw [index, index, hline]
    omega

theorem Location.On.index_lt_iff {first second : Location} (hfirst : first.On source)
    (hsecond : second.On source) : first.index source < second.index source ↔
      toLex (first.line, first.byteOffset) < toLex (second.line, second.byteOffset) := by
  refine ⟨fun h => ?_, hfirst.index_lt⟩
  rcases lt_trichotomy (toLex (first.line, first.byteOffset))
    (toLex (second.line, second.byteOffset)) with hlt | heq | hgt
  · exact hlt
  · obtain ⟨hline, hoffset⟩ := Prod.mk.inj (toLex.injective heq)
    rw [index, index, hline, hoffset] at h
    exact absurd h (Nat.lt_irrefl _)
  · exact absurd (h.trans (hsecond.index_lt hgt)) (Nat.lt_irrefl _)

theorem Cursor.On.index_location (h : On source cursor) :
    cursor.location.index source = cursor.index := by
  obtain ⟨_, _, _, _, hstands⟩ := h.exists_stands
  exact hstands.index_location

theorem Cursor.On.location_on (h : On source cursor) : cursor.location.On source := by
  obtain ⟨_, _, _, _, hstands⟩ := h.exists_stands
  exact hstands.location_on

theorem Cursor.On.location_inj {first second : Cursor} (hfirst : On source first)
    (hsecond : On source second) (h : first.location = second.location) : first = second := by
  have hindex : first.index = second.index := by
    rw [← hfirst.index_location, ← hsecond.index_location, h]
  obtain ⟨_, _⟩ := first
  obtain ⟨_, _⟩ := second
  exact congr (congrArg Cursor.mk (hfirst.source.trans hsecond.source.symm)) hindex

end

/-- The bytes at which symbols begin, and the end, have the locations of the places in all lines,
each its own, and in the order of lines and offsets. -/
theorem location_faithful (source : Text) :
    (∀ index, Cursor.OnSymbol ⟨source, index⟩ →
      (Location.of source index).On source ∧
        (Location.of source index).index source = index ∧
        (Location.of source index).line = (Cursor.before ⟨source, index⟩).count '\n' + 1) ∧
    (∀ location : Location, location.On source →
      Cursor.OnSymbol ⟨source, location.index source⟩ ∧
        ∀ index, Cursor.OnSymbol ⟨source, index⟩ →
          (Location.of source index = location ↔ index = location.index source)) ∧
    (∀ first second, Cursor.On source first → Cursor.On source second →
      first.location = second.location → first = second) ∧
    ∀ first second, Cursor.On source first → Cursor.On source second →
      (first.index < second.index ↔
        toLex (first.location.line, first.location.byteOffset) <
          toLex (second.location.line, second.location.byteOffset)) := by
  refine ⟨fun index hindex => ?_, fun location hlocation => ?_,
    fun first second hfirst hsecond => hfirst.location_inj hsecond,
    fun first second hfirst hsecond => ?_⟩
  · obtain ⟨_, _, _, _, hstands⟩ := (Cursor.On.rfl hindex).exists_stands
    refine ⟨hstands.location_on, hstands.index_location, ?_⟩
    rw [← hstands.newlines]
    exact congrArg Location.line hstands.location
  · obtain ⟨cursor, _, _, _, _, hcursor, hstands, rfl⟩ := hlocation.exists_stands
    have hsource := hcursor.source
    subst hsource
    rw [hstands.index_location]
    refine ⟨hcursor.onSymbol, fun index hindex => ⟨fun h => ?_, ?_⟩⟩
    · exact congrArg Cursor.index ((Cursor.On.rfl hindex).location_inj hcursor h)
    · rintro rfl
      rfl
  · rw [← hfirst.location_on.index_lt_iff hsecond.location_on, hfirst.index_location,
      hsecond.index_location]

/-- The second line is empty and the third begins with a symbol of three bytes. -/
theorem location_faithful_empty_line :
    (⟨3, 4⟩ : Location).On ['é', '\n', '\n', '→', 'x'] ∧
      Location.of ['é', '\n', '\n', '→', 'x'] 8 = ⟨3, 4⟩ := by
  have hon : (⟨3, 4⟩ : Location).On ['é', '\n', '\n', '→', 'x'] :=
    ⟨by decide, by decide, ['→', 'x'], rfl, by decide, ['→', 'x'], [], rfl, rfl⟩
  have hplace : Cursor.OnSymbol ⟨['é', '\n', '\n', '→', 'x'], 8⟩ :=
    ⟨['é', '\n', '\n', '→', 'x'], [], rfl, rfl⟩
  exact ⟨hon, (((location_faithful _).2.1 _ hon).2 8 hplace).mpr rfl⟩

end Descent
