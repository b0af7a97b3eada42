import Mathlib.Data.List.Forall2
import Descent.Proofs.Position
import Descent.Session

/-!
# Sessions count symbols

A session that is only moved, forwards, backwards and back to cursors it has
kept, is a session of plain numbers (`Counter`) seen through `Cursor.nth`: each
move keeps the two together (`Tracks.move`), so every run of moves does
(`tracks_after`), and whatever a cursor shows can be read off its number
(`cursor_counted`).
-/

namespace Descent

namespace Cursor

/-- The cursor is the one of that number, and the text has as many symbols. -/
def Counted (source : Text) (cursor : Cursor) (position : Nat) : Prop :=
  position ≤ source.length ∧ cursor = nth source position

variable {source : Text} {cursor : Cursor} {position : Nat}

theorem Counted.advance (h : Counted source cursor position) (count : Nat) :
    Counted source (cursor.advance count) (min (position + count) source.length) := by
  obtain ⟨-, rfl⟩ := h
  refine ⟨Nat.min_le_right _ _, ?_⟩
  rw [advance_nth, nth_min]

theorem Counted.retreat (h : Counted source cursor position) :
    Counted source cursor.retreat (position - 1) := by
  obtain ⟨hposition, rfl⟩ := h
  exact ⟨Nat.le_trans (Nat.sub_le _ _) hposition, retreat_nth hposition⟩

end Cursor

namespace Session

open Cursor (Counted Shows)

inductive Move where
  | advance (count : Nat)
  | retreat
  | save (slot : Text)
  | restore (slot : Text)

def Move.step : Move → Step
  | .advance count => .advance count
  | .retreat => .retreat
  | .save slot => .save slot
  | .restore slot => .load slot

def after (source : Text) (moves : List Move) : Session :=
  moves.foldl (fun session move => (session.step move.step).1) (start source)

structure Counter where
  position : Nat := 0
  slots : List (Text × Nat) := []

def Counter.move (size : Nat) (counter : Counter) : Move → Counter
  | .advance count => { counter with position := min (counter.position + count) size }
  | .retreat => { counter with position := counter.position - 1 }
  | .save slot => { counter with slots := (slot, counter.position) :: counter.slots }
  | .restore slot => { counter with position := (counter.slots.lookup slot).getD counter.position }

def Counter.after (size : Nat) (moves : List Move) : Counter := moves.foldl (move size) {}

/-- The session and the counter stand at the same place and have kept the same places. -/
structure Tracks (source : Text) (session : Session) (counter : Counter) : Prop where
  cursor : Counted source session.cursor counter.position
  slots : List.Forall₂ (fun kept counted => kept.1 = counted.1 ∧ Counted source kept.2 counted.2)
    session.slots counter.slots

variable {source : Text} {session : Session} {counter : Counter}

theorem Tracks.lookup (h : Tracks source session counter) (slot : Text) :
    Option.Rel (Counted source) (session.slots.lookup slot) (counter.slots.lookup slot) := by
  have hslots := h.slots
  generalize session.slots = keeps, counter.slots = counts at hslots
  induction hslots with
  | nil => exact .none
  | @cons kept counted _ _ hkept _ ih =>
    obtain ⟨name, cursor⟩ := kept
    obtain ⟨name', position⟩ := counted
    obtain ⟨rfl, hcounted⟩ := hkept
    simp only [List.lookup_cons]
    cases slot == name with
    | true => exact .some hcounted
    | false => exact ih

theorem Tracks.move (h : Tracks source session counter) (move : Move) :
    Tracks source (session.step move.step).1 (counter.move source.length move) := by
  cases move with
  | advance count => exact ⟨h.cursor.advance count, h.slots⟩
  | retreat => exact ⟨h.cursor.retreat, h.slots⟩
  | save slot => exact ⟨h.cursor, .cons ⟨rfl, h.cursor⟩ h.slots⟩
  | restore slot =>
    refine ⟨?_, h.slots⟩
    have hslot := h.lookup slot
    show Counted source ((session.slots.lookup slot).getD session.cursor)
      ((counter.slots.lookup slot).getD counter.position)
    generalize session.slots.lookup slot = kept, counter.slots.lookup slot = counted at hslot
    cases hslot with
    | none => exact h.cursor
    | some hcounted => exact hcounted

theorem tracks_after (source : Text) (moves : List Move) :
    Tracks source (after source moves) (Counter.after source.length moves) := by
  have hstart : Tracks source (start source) {} := ⟨⟨Nat.zero_le _, rfl⟩, .nil⟩
  refine List.rel_foldl (R := Eq) (P := Tracks source) ?_ hstart (List.forall₂_refl moves)
  rintro session counter h move _ rfl
  exact h.move move

/-- After any moves, the counter holds the one number by which the cursor is reached from the start,
the cursor shows what belongs to that number, and cursors are the same when their numbers are. -/
theorem cursor_counted (source : Text) (moves : List Move) :
    let cursor := (after source moves).cursor
    let position := (Counter.after source.length moves).position
    position ≤ source.length ∧
      (∀ other ≤ source.length, cursor = (Cursor.start source).advance other ↔ other = position) ∧
      Shows source position cursor ∧
      ∀ moves', (after source moves').cursor = cursor ↔
        (Counter.after source.length moves').position = position := by
  have hcursor := (tracks_after source moves).cursor
  refine ⟨hcursor.1, fun other hother => ?_, hcursor.2 ▸ Cursor.shows_nth hcursor.1,
    fun moves' => ?_⟩
  · rw [hcursor.2, Cursor.advance_start, Cursor.nth_inj hcursor.1 hother, eq_comm]
  · have hcursor' := (tracks_after source moves').cursor
    rw [hcursor.2, hcursor'.2, Cursor.nth_inj hcursor'.1 hcursor.1]

example :
    let moves : List Move := [.advance 1, .save ['a'], .advance (2 ^ 64 - 1), .retreat, .save ['b'],
      .restore ['a'], .retreat, .restore ['b']]
    (after ['λ', 'x', '→', 'y'] moves).cursor.index = 6 ∧ (Counter.after 4 moves).position = 3 := by
  cbv

end Session

end Descent
