import Descent.Cursor

/-!
# Places of a text

`Cursor.Reads entry text rest`: between two cursors stands a text, said of
symbols and bytes together. `Cursor.On source`: a cursor that stands on a
symbol of the text, or at its end; `places` lists these cursors.
-/

namespace Descent

namespace Cursor

/-- The cursor `entry` has `text` before it and `rest` stands behind that. -/
structure Reads (entry : Cursor) (text : Text) (rest : Cursor) : Prop where
  source : rest.source = entry.source
  index : rest.index = entry.index + text.byteSize
  remainder : entry.remainder = text ++ rest.remainder

/-- The cursor stands on a symbol of this text, or at its end. -/
structure On (source : Text) (cursor : Cursor) : Prop where
  source : cursor.source = source
  onSymbol : cursor.OnSymbol

theorem remainder_of_split {cursor : Cursor} {before after : Text}
    (hsource : cursor.source = before ++ after)
    (hindex : cursor.index = Text.byteSize before) : cursor.remainder = after := by
  simp [remainder, hsource, hindex, Text.dropBytes?_append]

theorem OnSymbol.split {cursor : Cursor} (h : cursor.OnSymbol) :
    ∃ before, cursor.source = before ++ cursor.remainder ∧
      cursor.index = Text.byteSize before := by
  obtain ⟨before, after, hsource, hindex⟩ := h
  rw [remainder_of_split hsource hindex]
  exact ⟨before, hsource, hindex⟩

theorem onSymbol_start (source : Text) : (start source).OnSymbol := ⟨[], source, rfl, rfl⟩

@[simp] theorem remainder_start (source : Text) : (start source).remainder = source :=
  @remainder_of_split _ [] source rfl rfl

theorem On.rfl {cursor : Cursor} (h : cursor.OnSymbol) : On cursor.source cursor := ⟨by rfl, h⟩

theorem On.eq_of_remainder {text left : Text} {rest : Cursor} (h : On (text ++ left) rest)
    (hleft : rest.remainder = left) : rest = ⟨text ++ left, text.byteSize⟩ := by
  obtain ⟨before, hsource, hindex⟩ := h.onSymbol.split
  rw [h.source, hleft] at hsource
  obtain rfl := List.append_cancel_right hsource
  obtain ⟨source, index⟩ := rest
  exact congr (congrArg Cursor.mk h.source) hindex

-- ---------------------------------------------------------------------------
-- Reading
-- ---------------------------------------------------------------------------

namespace Reads

variable {entry middle rest : Cursor} {text first second : Text}

theorem rfl : entry.Reads [] entry := ⟨by rfl, by simp, by simp⟩

theorem trans (h : entry.Reads first middle) (h' : middle.Reads second rest) :
    entry.Reads (first ++ second) rest where
  source := h'.source.trans h.source
  index := by rw [h'.index, h.index, Text.byteSize_append, Nat.add_assoc]
  remainder := by rw [h.remainder, h'.remainder, List.append_assoc]

theorem onSymbol (h : entry.Reads text rest) (hon : entry.OnSymbol) : rest.OnSymbol := by
  obtain ⟨before, hsource, hindex⟩ := hon.split
  refine ⟨before ++ text, rest.remainder, ?_, ?_⟩
  · rw [h.source, hsource, h.remainder, List.append_assoc]
  · rw [h.index, hindex, Text.byteSize_append]

theorem on {source : Text} (h : entry.Reads text rest) (hon : On source entry) : On source rest :=
  ⟨h.source.trans hon.source, h.onSymbol hon.onSymbol⟩

theorem eq_of_nil (h : entry.Reads [] rest) : rest = entry := by
  cases entry
  cases rest
  obtain ⟨hsource, hindex, -⟩ := h
  simp_all

theorem length_lt (h : entry.Reads text rest) (hne : text ≠ []) :
    rest.remainder.length < entry.remainder.length := by
  have := List.length_pos_iff.mpr hne
  rw [h.remainder, List.length_append]
  omega

theorem index_lt (h : entry.Reads text rest) (hne : text ≠ []) : entry.index < rest.index := by
  obtain ⟨symbol, text, rfl⟩ := List.exists_cons_of_ne_nil hne
  have := symbol.utf8Size_pos
  rw [h.index, Text.byteSize_cons]
  omega

theorem length_le (h : entry.Reads text rest) : rest.remainder.length ≤ entry.remainder.length := by
  rw [h.remainder, List.length_append]
  omega

theorem unique {rest' : Cursor} (h : entry.Reads first rest) (h' : entry.Reads second rest')
    (hleft : rest.remainder = rest'.remainder) : rest = rest' := by
  have htext : first = second := by
    have := h.remainder.symm.trans h'.remainder
    rwa [hleft, List.append_left_inj] at this
  cases rest
  cases rest'
  obtain ⟨hsource, hindex, -⟩ := h
  obtain ⟨hsource', hindex', -⟩ := h'
  simp_all

end Reads

theorem reads_skipBytes {entry : Cursor} (hon : entry.OnSymbol)
    (h : entry.remainder = text ++ after) : entry.Reads text (entry.skipBytes text.byteSize) := by
  obtain ⟨before, hsource, hindex⟩ := hon.split
  have hsplit : entry.source = (before ++ text) ++ after := by
    rw [hsource, h, List.append_assoc]
  have hskip : (entry.skipBytes text.byteSize).index = Text.byteSize (before ++ text) := by
    simp only [skipBytes, hsplit, hindex, Text.byteSize_append]
    omega
  refine ⟨rfl, ?_, ?_⟩
  · rw [hskip, hindex, Text.byteSize_append]
  · have hrest : (entry.skipBytes text.byteSize).remainder = after :=
      remainder_of_split hsplit hskip
    rw [h, hrest]

theorem reads_advance {entry : Cursor} (hon : entry.OnSymbol) (count : Nat) :
    entry.Reads (entry.remainder.take count) (entry.advance count) :=
  reads_skipBytes hon (List.take_append_drop count _).symm

theorem remainder_advance {entry : Cursor} (hon : entry.OnSymbol) (count : Nat) :
    (entry.advance count).remainder = entry.remainder.drop count := by
  have h := (reads_advance hon count).remainder
  exact (List.append_cancel_left ((List.take_append_drop count _).trans h)).symm

theorem remainder_eq_cons {entry : Cursor} (h : entry.current = some symbol) :
    ∃ after, entry.remainder = symbol :: after := by
  rw [current] at h
  cases hr : entry.remainder with
  | nil => simp [hr] at h
  | cons first after =>
    rw [hr, List.head?_cons, Option.some_inj] at h
    exact ⟨after, by rw [h]⟩

-- ---------------------------------------------------------------------------
-- All places
-- ---------------------------------------------------------------------------

def places (source : Text) : List Cursor :=
  (List.range (source.length + 1)).map fun count =>
    { source, index := Text.byteSize (source.take count) }

@[simp] theorem length_places (source : Text) : (places source).length = source.length + 1 := by
  simp [places]

theorem On.mem_places {source : Text} {cursor : Cursor} (h : On source cursor) :
    cursor ∈ places source := by
  obtain ⟨before, hsource, hindex⟩ := h.onSymbol.split
  rw [h.source] at hsource
  refine List.mem_map.mpr ⟨before.length, ?_, ?_⟩
  · simp only [List.mem_range, hsource, List.length_append]
    omega
  · have htake : source.take before.length = before := by rw [hsource, List.take_left]
    rw [htake, ← hindex, ← h.source]

theorem on_of_mem_places {source : Text} {cursor : Cursor} (h : cursor ∈ places source) :
    On source cursor := by
  obtain ⟨count, -, rfl⟩ := List.mem_map.mp h
  exact ⟨rfl, source.take count, source.drop count, (List.take_append_drop _ _).symm, rfl⟩

-- ---------------------------------------------------------------------------
-- Kinds of cursors
-- ---------------------------------------------------------------------------

/-- Cursors that reading does not leave. -/
structure Kind where
  holds : Cursor → Prop
  skipBytes {cursor text} : holds cursor → text <+: cursor.remainder →
    holds (cursor.skipBytes (Text.byteSize text))

def Kind.all : Kind where
  holds _ := True
  skipBytes _ _ := trivial

def Kind.on (source : Text) : Kind where
  holds := On source
  skipBytes := by
    rintro cursor text h ⟨after, hafter⟩
    exact (reads_skipBytes h.onSymbol hafter.symm).on h

end Cursor

end Descent
