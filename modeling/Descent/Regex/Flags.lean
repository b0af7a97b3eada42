import Descent.Regex.Simplify

/-!
Flags of the notation, and what they make of symbols, dots and anchors.
-/

namespace Descent.Regex

structure Flags where
  ignoreCase : Bool := false
  multiLine : Bool := false
  dotAll : Bool := false
  /-- Repetitions are lazy, and greedy with a question mark. -/
  swapGreed : Bool := false
  carriageReturn : Bool := false
  extended : Bool := false
  /-- Classes hold all symbols of their kind. Without the flag they hold ASCII symbols, and no set
  may hold others, since it would be a set of bytes. -/
  unicode : Bool := true
  deriving DecidableEq, Repr

namespace Flags

def set? (flags : Flags) (letter : Char) (on : Bool) : Option Flags :=
  match letter with
  | 'i' => some { flags with ignoreCase := on }
  | 'm' => some { flags with multiLine := on }
  | 's' => some { flags with dotAll := on }
  | 'U' => some { flags with swapGreed := on }
  | 'R' => some { flags with carriageReturn := on }
  | 'x' => some { flags with extended := on }
  | 'u' => some { flags with unicode := on }
  | _ => none

def fold (flags : Flags) (set : CharClass) : CharClass :=
  if !flags.ignoreCase then set
  else if flags.unicode then Unicode.Ranges.foldCase set
  else CharClass.foldAsciiCase set

/-- A set or, where it is negated, its complement, unless that would be a set of bytes. -/
def negate? (flags : Flags) (negated : Bool) (set : CharClass) : Option CharClass :=
  if negated && !flags.unicode then none else some (CharClass.negateIf negated set)

def symbol (flags : Flags) (symbol : Char) : Regex :=
  if !flags.unicode && '\x7F' < symbol then .literal [symbol]
  else ofSet (flags.fold (CharClass.single symbol))

def dot? (flags : Flags) : Option CharClass :=
  if !flags.unicode then none
  else if flags.dotAll then some CharClass.any
  else if flags.carriageReturn then
    some (Unicode.Ranges.compl [('\n'.toNat, '\n'.toNat), ('\r'.toNat, '\r'.toNat)])
  else some (Unicode.Ranges.compl (CharClass.single '\n'))

def lineStart (flags : Flags) : Look :=
  if !flags.multiLine then .textStart else if flags.carriageReturn then .lineStartCR else .lineStart

def lineEnd (flags : Flags) : Look :=
  if !flags.multiLine then .textEnd else if flags.carriageReturn then .lineEndCR else .lineEnd

def skipTrivia (inComment : Bool) : Text → Text
  | [] => []
  | symbol :: rest =>
    if inComment then skipTrivia (symbol != '\n') rest
    else if symbol == '#' then skipTrivia true rest
    else if Unicode.isBlank symbol then skipTrivia false rest
    else symbol :: rest

def skip (flags : Flags) (text : Text) : Text :=
  if flags.extended then skipTrivia false text else text

/-- The symbol that is expected next. In extended notation it is looked for behind blanks and behind
the sign of a comment, but within the comment itself, unless there are only blanks to come. -/
def peek (flags : Flags) (text : Text) : Option Char :=
  if !flags.extended then text.head?
  else
    let behindSign := match text.dropWhile Unicode.isBlank with
      | '#' :: rest => rest.dropWhile Unicode.isBlank
      | rest => rest
    behindSign.head?.or text.head?

def takeRun (flags : Flags) (test : Char → Bool) : Nat → Text → Text × Text
  | 0, text => ([], text)
  | _ + 1, [] => ([], [])
  | count + 1, symbol :: rest =>
    if test symbol then
      let (run, rest) := takeRun flags test count (flags.skip rest)
      (symbol :: run, rest)
    else ([], symbol :: rest)

end Flags

end Descent.Regex
