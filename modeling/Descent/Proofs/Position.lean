import Descent.Proofs.Cursor

/-!
# Cursors by number

`Cursor.nth source position` stands behind the first `position` symbols of a
text. The cursors on a text are these (`On.exists_nth`), each has one number
(`nth_inj`), and a move of the cursor is one of its number: forwards up to the
number of symbols, backwards down to zero.
-/

namespace Descent

theorem Text.byteSize_eq_zero {text : Text} : text.byteSize = 0 ↔ text = [] := by
  cases text with
  | nil => simp
  | cons symbol rest =>
    have := symbol.utf8Size_pos
    simp only [byteSize_cons, reduceCtorEq, iff_false]
    omega

theorem Text.takeBytes?_eq_some_iff {text first : Text} {count : Nat} :
    text.takeBytes? count = some first ↔ ∃ left, text = first ++ left ∧ count = first.byteSize := by
  constructor
  · intro h
    fun_induction takeBytes? text count generalizing first with
    | case1 text =>
      cases h
      exact ⟨text, rfl, rfl⟩
    | case2 => cases h
    | case3 symbol rest count hfits ih =>
      obtain ⟨taken, htaken, rfl⟩ := Option.map_eq_some_iff.mp h
      obtain ⟨left, hleft, hcount⟩ := ih htaken
      exact ⟨left, by rw [hleft, List.cons_append], by rw [byteSize_cons]; omega⟩
    | case4 => cases h
  · rintro ⟨left, rfl, rfl⟩
    exact takeBytes?_append first left

namespace Cursor

/-- The cursor behind so many symbols of a text, or behind all there are. -/
def nth (source : Text) (position : Nat) : Cursor :=
  { source, index := Text.byteSize (source.take position) }

variable {source : Text} {position other : Nat} {cursor : Cursor}

@[simp] theorem source_nth : (nth source position).source = source := rfl

theorem index_nth : (nth source position).index = Text.byteSize (source.take position) := rfl

theorem start_eq_nth : start source = nth source 0 := rfl

theorem nth_onSymbol : (nth source position).OnSymbol :=
  ⟨source.take position, source.drop position, (List.take_append_drop _ _).symm, rfl⟩

theorem on_nth : On source (nth source position) := ⟨rfl, nth_onSymbol⟩

theorem nth_min (source : Text) (position : Nat) :
    nth source (min position source.length) = nth source position := by
  simp only [nth, List.take_eq_take_min (i := position)]

theorem On.exists_nth (h : On source cursor) :
    ∃ position ≤ source.length, cursor = nth source position := by
  obtain ⟨before, hsource, hindex⟩ := h.onSymbol.split
  rw [h.source] at hsource
  refine ⟨before.length, ?_, ?_⟩
  · rw [hsource, List.length_append]
    exact Nat.le_add_right _ _
  · have htake : source.take before.length = before := by rw [hsource, List.take_left]
    rw [nth, htake, ← hindex, ← h.source]

-- ---------------------------------------------------------------------------
-- What is seen from a place
-- ---------------------------------------------------------------------------

theorem takeBytes?_nth :
    source.takeBytes? (nth source position).index = some (source.take position) := by
  have h := Text.takeBytes?_append (source.take position) (source.drop position)
  rwa [List.take_append_drop] at h

theorem dropBytes?_nth :
    source.dropBytes? (nth source position).index = some (source.drop position) := by
  have h := Text.dropBytes?_append (source.take position) (source.drop position)
  rwa [List.take_append_drop] at h

@[simp] theorem before_nth : (nth source position).before = source.take position := by
  rw [before, source_nth, takeBytes?_nth, Option.getD_some]

@[simp] theorem remainder_nth : (nth source position).remainder = source.drop position := by
  rw [remainder, source_nth, dropBytes?_nth, Option.getD_some]

theorem current_nth : (nth source position).current = source[position]? := by
  rw [current, remainder_nth, List.head?_drop]

theorem nth_inj (hposition : position ≤ source.length) (hother : other ≤ source.length) :
    nth source position = nth source other ↔ position = other := by
  refine ⟨fun h => ?_, fun h => by rw [h]⟩
  have htake : source.take position = source.take other := by
    rw [← before_nth, ← before_nth, h]
  have hlength := congrArg List.length htake
  rwa [List.length_take_of_le hposition, List.length_take_of_le hother] at hlength

theorem isAtEnd_nth (hposition : position ≤ source.length) :
    (nth source position).isAtEnd = true ↔ position = source.length := by
  have hsize : source.byteSize =
      Text.byteSize (source.take position) + Text.byteSize (source.drop position) := by
    rw [← Text.byteSize_append, List.take_append_drop]
  have hrest : Text.byteSize (source.drop position) = 0 ↔ source.length ≤ position := by
    rw [Text.byteSize_eq_zero, List.drop_eq_nil_iff]
  rw [isAtEnd, decide_eq_true_eq, index_nth, source_nth]
  omega

structure Shows (source : Text) (position : Nat) (cursor : Cursor) : Prop where
  source_eq : cursor.source = source
  index : cursor.index = Text.byteSize (source.take position)
  current : cursor.current = source[position]?
  current_none : cursor.current = none ↔ position = source.length
  remainder : cursor.remainder = source.drop position
  isAtEnd : cursor.isAtEnd = true ↔ position = source.length

theorem shows_nth (hposition : position ≤ source.length) :
    Shows source position (nth source position) := by
  refine ⟨rfl, rfl, current_nth, ?_, remainder_nth, isAtEnd_nth hposition⟩
  rw [current_nth, List.getElem?_eq_none_iff]
  omega

-- ---------------------------------------------------------------------------
-- Moves
-- ---------------------------------------------------------------------------

theorem advance_nth (count : Nat) :
    (nth source position).advance count = nth source (position + count) := by
  have hon : (nth source position).OnSymbol := nth_onSymbol
  have hindex := (reads_advance hon count).index
  rw [remainder_nth, index_nth, ← Text.byteSize_append, ← List.take_add] at hindex
  show Cursor.mk source ((nth source position).advance count).index = _
  rw [hindex, nth]

theorem advance_start (position : Nat) : (start source).advance position = nth source position := by
  rw [start_eq_nth, advance_nth, Nat.zero_add]

theorem retreat_nth (hposition : position ≤ source.length) :
    (nth source position).retreat = nth source (position - 1) := by
  have hlast : (source.take position).dropLast = source.take (position - 1) := by
    rw [List.dropLast_eq_take, List.take_take, List.length_take_of_le hposition,
      Nat.min_eq_left (Nat.sub_le _ _)]
  rw [retreat, before_nth, hlast, source_nth, nth]

theorem On.advance (h : On source cursor) (count : Nat) : On source (cursor.advance count) :=
  (reads_advance h.onSymbol count).on h

theorem On.retreat (h : On source cursor) : On source cursor.retreat := by
  obtain ⟨position, hposition, rfl⟩ := h.exists_nth
  rw [retreat_nth hposition]
  exact on_nth

-- ---------------------------------------------------------------------------
-- Between two places
-- ---------------------------------------------------------------------------

theorem Reads.index_le {entry rest : Cursor} {text : Text} (h : entry.Reads text rest) :
    entry.index ≤ rest.index := by
  rw [h.index]
  exact Nat.le_add_right _ _

theorem Reads.slice?_eq {entry rest : Cursor} {text : Text} (h : entry.Reads text rest)
    (hentry : entry.OnSymbol) : entry.source.slice? entry.index rest.index = some text := by
  obtain ⟨before, hsource, hindex⟩ := hentry.split
  have hdrop : entry.source.dropBytes? entry.index = some (text ++ rest.remainder) := by
    rw [hindex, ← h.remainder]
    conv => lhs; rw [hsource]
    exact Text.dropBytes?_append _ _
  have hstop : rest.index - entry.index = text.byteSize := by
    rw [h.index]
    omega
  rw [Text.slice?, if_pos h.index_le, hdrop, Option.bind_some, hstop, Text.takeBytes?_append]

theorem On.exists_reads {entry rest : Cursor} (hentry : On source entry) (hrest : On source rest)
    (hle : entry.index ≤ rest.index) : ∃ text, entry.Reads text rest := by
  obtain ⟨position, -, rfl⟩ := hentry.exists_nth
  obtain ⟨other, -, rfl⟩ := hrest.exists_nth
  have hreads : ∀ {low high}, low ≤ high →
      ∃ text, (nth source low).Reads text (nth source high) := by
    intro low high h
    have hlow : (nth source low).OnSymbol := nth_onSymbol
    have hreads := reads_advance hlow (high - low)
    rw [advance_nth, Nat.add_sub_cancel' h] at hreads
    exact ⟨_, hreads⟩
  obtain h | h := Nat.le_total position other
  · exact hreads h
  · -- Nothing stands between them, so they are one place.
    obtain ⟨text, htext⟩ := hreads h
    have hempty : text = [] := by
      have := htext.index
      rw [← Text.byteSize_eq_zero]
      omega
    subst hempty
    rw [htext.eq_of_nil]
    exact ⟨[], .rfl⟩

end Cursor

end Descent
