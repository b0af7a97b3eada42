import Mathlib.Data.List.Intervals
import Descent.Failure.Display
import Descent.Proofs.Location

/-!
# What a display shows

The display of a failure shows the lines from two above to two below the failing
one, as they are, and one pointer (`display_shown`). The pointer is set by bytes:
it stands under the byte at which the failing symbol begins, or the line ends. In
symbols that is the right column if all symbols before are ASCII, and a column
further to the right if not.
-/

namespace Descent

namespace Text

-- ---------------------------------------------------------------------------
-- Symbols and bytes
-- ---------------------------------------------------------------------------

theorem utf8Size_eq_one_iff {symbol : Char} : symbol.utf8Size = 1 ↔ symbol.toNat < 128 := by
  rw [Char.utf8Size_eq_one_iff, UInt32.le_iff_toNat_le]
  show symbol.toNat ≤ 127 ↔ _
  omega

theorem length_le_byteSize (text : Text) : text.length ≤ text.byteSize := by
  induction text with
  | nil => exact Nat.le_refl _
  | cons symbol rest ih =>
    have := symbol.utf8Size_pos
    rw [List.length_cons, byteSize_cons]
    omega

theorem length_eq_byteSize_iff (text : Text) :
    text.length = text.byteSize ↔ ∀ symbol ∈ text, symbol.toNat < 128 := by
  induction text with
  | nil => simp
  | cons symbol rest ih =>
    have hrest := length_le_byteSize rest
    have hsymbol := symbol.utf8Size_pos
    rw [List.forall_mem_cons, ← ih, ← utf8Size_eq_one_iff, List.length_cons, byteSize_cons]
    omega

theorem ofNat_ascii (number : Nat) : ∀ symbol ∈ ofNat number, symbol.toNat < 128 := by
  intro symbol hsymbol
  have hdigit := Nat.isDigit_of_mem_toDigits (by decide) (by decide) hsymbol
  have hle : symbol.toNat ≤ 57 := (Char.isDigit_iff_toNat.mp hdigit).2
  omega

end Text

namespace Failure

-- ---------------------------------------------------------------------------
-- The window
-- ---------------------------------------------------------------------------

/-- The lines that are displayed around a line, with their numbers. -/
def window (source : Text) (line : Nat) : List (Text × Nat) :=
  (source.lines.zipIdx 1).filter fun entry => line - 2 ≤ entry.2 ∧ entry.2 ≤ line + 2

theorem contextLines_eq (source : Text) (location : Location) :
    contextLines source location = (window source location.line).flatMap fun entry =>
      displayLine location entry.2 entry.1 := by
  rw [contextLines, window]
  induction source.lines.zipIdx 1 with
  | nil => rfl
  | cons entry entries ih =>
    rw [List.flatMap_cons, ih]
    by_cases hentry : location.line - 2 ≤ entry.2 ∧ entry.2 ≤ location.line + 2
    · rw [List.filter_cons_of_pos (by simpa only [decide_eq_true_eq] using hentry),
        List.flatMap_cons]
      simp only [if_pos hentry]
    · rw [List.filter_cons_of_neg (by simpa only [decide_eq_true_eq] using hentry)]
      simp only [if_neg hentry, List.nil_append]

theorem window_numbers (source : Text) (line : Nat) : (window source line).map Prod.snd =
    List.Ico (max 1 (line - 2)) (min source.lines.length (line + 2) + 1) := by
  have hall : (source.lines.zipIdx 1).map Prod.snd = List.Ico 1 (source.lines.length + 1) :=
    List.zipIdx_map_snd 1 source.lines
  have hwindow : (window source line).map Prod.snd =
      ((List.Ico 1 (source.lines.length + 1)).filter (line - 2 ≤ ·)).filter (· < line + 3) := by
    rw [← hall, List.filter_map, List.filter_map, List.filter_filter, window]
    congr 1
    refine List.filter_congr fun entry _ => ?_
    simp [Bool.and_comm, Nat.lt_succ_iff]
  rw [hwindow, List.Ico.filter_le, List.Ico.filter_lt, Nat.add_min_add_right]

theorem window_lines (source : Text) (line : Nat) :
    ∀ entry ∈ window source line, source.lines[entry.2 - 1]? = some entry.1 := by
  intro entry hentry
  have hmem := List.mem_of_mem_filter hentry
  rw [List.mem_zipIdx_iff_le_and_getElem?_sub] at hmem
  exact hmem.2

theorem window_split {source : Text} (h : source.lines = earlier ++ text :: later) :
    ∃ above below, window source (earlier.length + 1) =
        above ++ (text, earlier.length + 1) :: below ∧
      ∀ entry ∈ above ++ below, entry.2 ≠ earlier.length + 1 := by
  rw [window, h, List.zipIdx_append, List.zipIdx_cons, List.filter_append, List.filter_cons_of_pos
    (by simp; omega), Nat.add_comm 1]
  refine ⟨_, _, rfl, fun entry hentry => ?_⟩
  rcases List.mem_append.mp hentry with hentry | hentry
  · have := List.mem_zipIdx (List.mem_of_mem_filter hentry)
    omega
  · have := List.mem_zipIdx (List.mem_of_mem_filter hentry)
    omega

-- ---------------------------------------------------------------------------
-- The display
-- ---------------------------------------------------------------------------

def unmarked (entry : Text × Nat) : Text :=
  "    ".toList ++ Text.ofNat entry.2 ++ " | ".toList ++ entry.1

def mark (line : Nat) : Text := "  > ".toList ++ Text.ofNat line ++ " | ".toList

/-- What the display of a failure shows: the lines `above`, then the failing one, which the cursor
cuts into `ahead` and `behind`, with the pointer under it, then the lines `below`. -/
structure Shown (failure : Failure) (above below : List (Text × Nat)) (ahead behind : Text) :
    Prop where
  display : failure.display =
    "Syntax error at line ".toList ++ Text.ofNat failure.cursor.location.line ++
      ", byte offset ".toList ++ Text.ofNat failure.cursor.location.byteOffset ++ ": ".toList ++
      failure.message ++ ['\n', '\n'] ++
      (above.map unmarked ++
        (mark failure.cursor.location.line ++ ahead ++ behind) ::
        (List.replicate (Text.byteSize (mark failure.cursor.location.line ++ ahead)) ' ' ++
          "^--- here".toList) ::
        below.map unmarked).flatMap (· ++ ['\n'])
  numbers : (above ++ (ahead ++ behind, failure.cursor.location.line) :: below).map Prod.snd =
    List.Ico (max 1 (failure.cursor.location.line - 2))
      (min failure.cursor.source.lines.length (failure.cursor.location.line + 2) + 1)
  lines : ∀ entry ∈ above ++ (ahead ++ behind, failure.cursor.location.line) :: below,
    failure.cursor.source.lines[entry.2 - 1]? = some entry.1
  /-- Behind `ahead` stands the symbol at the cursor, or nothing if that ends the line. -/
  current : behind.head? = failure.cursor.current.filter (· != '\n')
  behind_eq : behind = failure.cursor.remainder.takeWhile (· != '\n')
  offset : failure.cursor.location.byteOffset = ahead.byteSize
  column_le : (mark failure.cursor.location.line ++ ahead).length ≤
    Text.byteSize (mark failure.cursor.location.line ++ ahead)
  column_eq_iff : (mark failure.cursor.location.line ++ ahead).length =
      Text.byteSize (mark failure.cursor.location.line ++ ahead) ↔
    ∀ symbol ∈ ahead, symbol.toNat < 128

theorem mark_ascii (line : Nat) : ∀ symbol ∈ mark line, symbol.toNat < 128 := by
  rw [mark, List.forall_mem_append, List.forall_mem_append]
  exact ⟨⟨by simp, Text.ofNat_ascii line⟩, by simp⟩

theorem displayLine_of_ne {location : Location} {entry : Text × Nat}
    (h : entry.2 ≠ location.line) : displayLine location entry.2 entry.1 = [unmarked entry] := by
  rw [displayLine, if_neg h]
  rfl

theorem displayLine_self (location : Location) (text : Text) :
    displayLine location location.line text =
      [mark location.line ++ text,
        List.replicate ((mark location.line).byteSize + location.byteOffset) ' ' ++
          "^--- here".toList] := by
  rw [displayLine, if_pos rfl]
  rfl

theorem contextLines_split {source : Text} {location : Location}
    (hwindow : window source location.line = above ++ (text, location.line) :: below)
    (hothers : ∀ entry ∈ above ++ below, entry.2 ≠ location.line) :
    contextLines source location = above.map unmarked ++ (mark location.line ++ text) ::
      (List.replicate ((mark location.line).byteSize + location.byteOffset) ' ' ++
        "^--- here".toList) :: below.map unmarked := by
  have hplain : ∀ entries : List (Text × Nat), (∀ entry ∈ entries, entry.2 ≠ location.line) →
      (entries.flatMap fun entry => displayLine location entry.2 entry.1) =
        entries.map unmarked := by
    intro entries hentries
    rw [List.map_eq_flatMap]
    exact List.flatMap_congr fun entry hentry => displayLine_of_ne (hentries entry hentry)
  obtain ⟨habove, hbelow⟩ := List.forall_mem_append.mp hothers
  rw [contextLines_eq, hwindow, List.flatMap_append, List.flatMap_cons, hplain above habove,
    hplain below hbelow, displayLine_self]
  rfl

theorem flatMap_newline (header : Text) (rest : List Text) :
    (header :: [] :: rest).flatMap (· ++ ['\n']) =
      header ++ ['\n', '\n'] ++ rest.flatMap (· ++ ['\n']) := by
  simp

/-- The display shows the lines around the failure, and points at the byte where it is. -/
theorem display_shown {failure : Failure} (hcursor : failure.cursor.OnSymbol) :
    ∃ above below ahead behind, Shown failure above below ahead behind := by
  obtain ⟨earlier, ahead, behind, later, hstands⟩ := (Cursor.On.rfl hcursor).exists_stands
  have hline : failure.cursor.location.line = earlier.length + 1 :=
    congrArg Location.line hstands.location
  have hoffset : failure.cursor.location.byteOffset = ahead.byteSize :=
    congrArg Location.byteOffset hstands.location
  obtain ⟨above, below, hwindow, hothers⟩ := window_split hstands.lines
  rw [← hline] at hwindow hothers
  refine ⟨above, below, ahead, behind, ?_, hwindow ▸ window_numbers _ _, hwindow ▸ window_lines _ _,
    ?_, hstands.behind_eq, hoffset, Text.length_le_byteSize _, ?_⟩
  · dsimp only [display]
    rw [flatMap_newline, contextLines_split hwindow hothers, hoffset, Text.byteSize_append,
      ← List.append_assoc (mark _)]
  · rw [hstands.behind_eq, Cursor.current]
    cases failure.cursor.remainder with
    | nil => rfl
    | cons symbol rest => by_cases hsymbol : symbol = '\n' <;> simp [hsymbol, Option.filter]
  · rw [Text.length_eq_byteSize_iff, List.forall_mem_append]
    exact and_iff_right (mark_ascii _)

/-- The pointer is three columns too far right, behind symbols of two and three bytes. -/
theorem display_shown_accents :
    Cursor.OnSymbol ⟨['a', '\n', 'é', '→', 'x', '\n'], 7⟩ ∧
      ∃ above below ahead behind, Shown (.new ⟨['a', '\n', 'é', '→', 'x', '\n'], 7⟩ (.said ['?']))
        above below ahead behind := by
  have hcursor : Cursor.OnSymbol ⟨['a', '\n', 'é', '→', 'x', '\n'], 7⟩ :=
    ⟨['a', '\n', 'é', '→'], ['x', '\n'], rfl, rfl⟩
  exact ⟨hcursor, display_shown hcursor⟩

example : contextLines ['a', '\n', 'é', '→', 'x', '\n'] ⟨2, 5⟩ =
    ["    1 | a".toList, "  > 2 | é→x".toList, "             ^--- here".toList,
      "    3 | ".toList] := by
  decide +kernel

end Failure

end Descent
