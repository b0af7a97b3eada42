/-!
Text as the list of its symbols, measured in bytes of UTF-8.

A byte offset names a place in a text only where a symbol begins or the text ends. The functions
that take an offset answer `none` everywhere else, so a symbol is never cut.
-/

namespace Descent

/-- A text is the list of its symbols, Unicode scalar values. -/
abbrev Text := List Char

namespace Text

def byteSize : Text → Nat
  | [] => 0
  | symbol :: rest => symbol.utf8Size + byteSize rest

@[simp] theorem byteSize_nil : byteSize [] = 0 := rfl

@[simp] theorem byteSize_cons (symbol : Char) (rest : Text) :
    byteSize (symbol :: rest) = symbol.utf8Size + byteSize rest := rfl

@[simp] theorem byteSize_append (first second : Text) :
    byteSize (first ++ second) = byteSize first + byteSize second := by
  induction first with
  | nil => simp
  | cons symbol rest ih => simp [ih, Nat.add_assoc]

def dropBytes? : Text → Nat → Option Text
  | text, 0 => some text
  | [], _ + 1 => none
  | symbol :: rest, count + 1 =>
    if symbol.utf8Size ≤ count + 1 then dropBytes? rest (count + 1 - symbol.utf8Size) else none

def takeBytes? : Text → Nat → Option Text
  | _, 0 => some []
  | [], _ + 1 => none
  | symbol :: rest, count + 1 =>
    if symbol.utf8Size ≤ count + 1 then
      (takeBytes? rest (count + 1 - symbol.utf8Size)).map (symbol :: ·)
    else none

theorem dropBytes?_append (first second : Text) :
    dropBytes? (first ++ second) (byteSize first) = some second := by
  induction first with
  | nil => simp [dropBytes?]
  | cons symbol rest ih =>
    obtain ⟨count, hcount⟩ : ∃ count, byteSize (symbol :: rest) = count + 1 :=
      ⟨byteSize (symbol :: rest) - 1, by have := symbol.utf8Size_pos; simp; omega⟩
    have hrest : count + 1 - symbol.utf8Size = byteSize rest := by simp at hcount; omega
    have hfits : symbol.utf8Size ≤ count + 1 := by simp at hcount; omega
    rw [hcount, List.cons_append, dropBytes?, ite_eq_left_iff.2 fun h => absurd hfits h, hrest, ih]

theorem takeBytes?_append (first second : Text) :
    takeBytes? (first ++ second) (byteSize first) = some first := by
  induction first with
  | nil => simp [takeBytes?]
  | cons symbol rest ih =>
    obtain ⟨count, hcount⟩ : ∃ count, byteSize (symbol :: rest) = count + 1 :=
      ⟨byteSize (symbol :: rest) - 1, by have := symbol.utf8Size_pos; simp; omega⟩
    have hrest : count + 1 - symbol.utf8Size = byteSize rest := by simp at hcount; omega
    have hfits : symbol.utf8Size ≤ count + 1 := by simp at hcount; omega
    rw [hcount, List.cons_append, takeBytes?, ite_eq_left_iff.2 fun h => absurd hfits h, hrest, ih]
    rfl

def slice? (text : Text) (start stop : Nat) : Option Text :=
  if start ≤ stop then (dropBytes? text start).bind (takeBytes? · (stop - start)) else none

/-- The parts between newlines: one more than there are newlines, none of them holding one. -/
def lines : Text → List Text
  | [] => [[]]
  | symbol :: rest =>
    if symbol = '\n' then [] :: lines rest
    else
      match lines rest with
      | [] => [[symbol]]
      | line :: more => (symbol :: line) :: more

def ofNat (n : Nat) : Text := Nat.toDigits 10 n

def ofInt : Int → Text
  | .ofNat n => ofNat n
  | .negSucc n => '-' :: ofNat (n + 1)

end Text

end Descent
