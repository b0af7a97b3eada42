import Descent.Cursor

/-!
Failures: where a parser failed, in which way, and for what reason.

A reason is a cause and `Reason.message` its only wording. The bytes that a message prints are part
of the reason, since a failure may be moved to an earlier cursor and keeps its message.
-/

namespace Descent

inductive Reason where
  | character (expected : Char) (found : Option Char) (index : Nat)
  | literal (expected found : Text) (index : Nat)
  | pattern (text : Text) (index : Nat)
  | noAlternative (index : Nat)
  | tooFew (index least found : Nat)
  | noItem (index : Nat)
  | noOperand (index : Nat)
  | said (message : Text)
  deriving DecidableEq, Repr

def Reason.message : Reason → Text
  | .character expected found index =>
    "character failed to parse, found '".toList ++
      (match found with
      | some symbol => [symbol]
      | none => "end of input".toList) ++
      "' expected '".toList ++ [expected] ++ "' at ".toList ++ Text.ofNat index
  | .literal expected found index =>
    "string failed to parse, found '".toList ++ found ++ "' expected '".toList ++ expected ++
      "' at ".toList ++ Text.ofNat index
  | .pattern text index =>
    "regex '".toList ++ text ++ "' failed to parse at ".toList ++ Text.ofNat index
  | .noAlternative index => "choose failed to parse at ".toList ++ Text.ofNat index
  | .tooFew index least found =>
    "many failed to parse at ".toList ++ Text.ofNat index ++ ": expected at least ".toList ++
      Text.ofNat least ++ " matches, found ".toList ++ Text.ofNat found
  | .noItem index => "interpose failed to parse at ".toList ++ Text.ofNat index
  | .noOperand index => "chainl failed to parse at ".toList ++ Text.ofNat index
  | .said message => message

/-- Whether one parser did not match, or a parser built of others gave up. -/
inductive Failure.Kind where
  | mismatch
  | composite
  deriving DecidableEq, Repr

structure Failure where
  kind : Failure.Kind
  cursor : Cursor
  reason : Reason
  deriving DecidableEq, Repr

namespace Failure

def new (cursor : Cursor) (reason : Reason) : Failure := { kind := .mismatch, cursor, reason }

def composite (cursor : Cursor) (reason : Reason) : Failure := { kind := .composite, cursor, reason }

/-- The failure as one of the parser entered at `entry`, for the same reason. -/
def anchored (failure : Failure) (entry : Cursor) : Failure := composite entry failure.reason

def index (failure : Failure) : Nat := failure.cursor.index

def message (failure : Failure) : Text := failure.reason.message

/-- Failures agree when kind, cursor and wording do; reasons of one wording count as one. -/
def agrees (first second : Failure) : Bool :=
  first.kind = second.kind ∧ first.cursor = second.cursor ∧ first.message = second.message

end Failure

end Descent
