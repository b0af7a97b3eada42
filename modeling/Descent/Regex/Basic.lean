import Descent.Regex.CharClass

/-!
Regular expressions with groups, greedy and lazy repetition and tests of the place.
-/

namespace Descent

inductive WordTest where
  | boundary
  | noBoundary
  | start
  | stop
  | startHalf
  | stopHalf
  deriving DecidableEq, Repr

inductive Look where
  | textStart
  | textEnd
  | lineStart
  | lineEnd
  /-- Like `lineStart` and `lineEnd`, where a carriage return ends a line too and a carriage return
  with a newline behind it ends one line only. -/
  | lineStartCR
  | lineEndCR
  /-- A test of words of Unicode symbols, or of ASCII symbols only. -/
  | word (test : WordTest) (unicode : Bool)
  deriving DecidableEq, Repr

def WordTest.holds (test : WordTest) (before after : Bool) : Bool :=
  match test with
  | boundary => before != after
  | noBoundary => before == after
  | start => !before && after
  | stop => before && !after
  | startHalf => !before
  | stopHalf => !after

def Look.holds (look : Look) (before after : Option Char) : Bool :=
  match look with
  | textStart => before.isNone
  | textEnd => after.isNone
  | lineStart => before.isNone || before == some '\n'
  | lineEnd => after.isNone || after == some '\n'
  | lineStartCR => before.isNone || before == some '\n' || before == some '\r' && after != some '\n'
  | lineEndCR => after.isNone || after == some '\r' || after == some '\n' && before != some '\r'
  | word test unicode =>
    let isWord := if unicode then Unicode.isWord else CharClass.holds CharClass.word
    test.holds (before.any isWord) (after.any isWord)

/-- Whether a place passes, as far as the symbol before it tells: it does whatever comes next. -/
def Look.holdsBefore (look : Look) (before : Option Char) : Bool :=
  match look with
  | textStart | lineStart | word .startHalf _ => look.holds before none
  | lineStartCR => before.isNone || before == some '\n'
  | _ => false

theorem Look.holds_of_holdsBefore {look : Look} {before : Option Char}
    (h : look.holdsBefore before = true) (after : Option Char) : look.holds before after = true := by
  unfold holdsBefore at h
  split at h <;> simp_all [holds, WordTest.holds]

/-- Whether the symbol before a place leaves the outcome open. -/
def Look.asksNext (look : Look) : Bool :=
  match look with
  | textStart | lineStart | word .startHalf _ => false
  | _ => true

inductive Regex where
  | empty
  /-- One symbol or more, each the given one. -/
  | literal (text : Text)
  | oneOf (set : CharClass)
  | lookAt (look : Look)
  | concat (parts : List Regex)
  | alternation (branches : List Regex)
  /-- From `least` to `most` times, without bound if `most` is missing. A greedy repetition tries
  another round first, a lazy one tries to stop first. -/
  | repetition (body : Regex) (least : Nat) (most : Option Nat) (greedy : Bool)
  | group (number : Nat) (body : Regex)
  deriving BEq

end Descent
