import Descent.Unicode.CaseFolding
import Descent.Unicode.Property

/-!
Sets of symbols in patterns: single symbols, ranges, the ASCII classes, and folding by case.
-/

namespace Descent

/-- A set of symbols as the ranges of their code points. -/
abbrev CharClass := Unicode.Ranges

namespace CharClass

open Unicode (Ranges)

def single (symbol : Char) : CharClass := [(symbol.toNat, symbol.toNat)]

def range (first last : Char) : CharClass := Ranges.between first.toNat last.toNat

def holds (set : CharClass) (symbol : Char) : Bool := Ranges.contains set symbol.toNat

def negateIf (negated : Bool) (set : CharClass) : CharClass :=
  if negated then Ranges.compl set else set

def any : CharClass := Ranges.between 0 0x10FFFF

def lower : CharClass := range 'a' 'z'

def upper : CharClass := range 'A' 'Z'

def digit : CharClass := range '0' '9'

def alpha : CharClass := Ranges.union upper lower

def alnum : CharClass := Ranges.union digit alpha

def hexDigit : CharClass := .ofList (digit ++ range 'A' 'F' ++ range 'a' 'f')

def blank : CharClass := Ranges.union (single '\t') (single ' ')

def space : CharClass := Ranges.union (range '\t' '\r') (single ' ')

def word : CharClass := Ranges.union alnum (single '_')

def ascii? (name : String) : Option CharClass :=
  match name with
  | "alnum" => some alnum
  | "alpha" => some alpha
  | "ascii" => some (range '\x00' '\x7F')
  | "blank" => some blank
  | "cntrl" => some (Ranges.union (range '\x00' '\x1F') (single '\x7F'))
  | "digit" => some digit
  | "graph" => some (range '!' '~')
  | "lower" => some lower
  | "print" => some (range ' ' '~')
  | "punct" => some (Ranges.diff (range '!' '~') alnum)
  | "space" => some space
  | "upper" => some upper
  | "word" => some word
  | "xdigit" => some hexDigit
  | _ => none

/-- All ASCII letters that differ from a letter of the set in case only, beside the set. -/
def foldAsciiCase (set : CharClass) : CharClass :=
  let small := (Ranges.inter set upper).map fun (first, last) => (first + 32, last + 32)
  let capital := (Ranges.inter set lower).map fun (first, last) => (first - 32, last - 32)
  .ofList (set ++ small ++ capital)

end CharClass

end Descent
