import Descent.Text

/-!
Sets of scalar values as ascending lists of ranges: the sets that Unicode tables and bracketed sets
of patterns denote, with the operations on them.

Operations give sets in one form: ranges ascend, do not touch, and hold no surrogate.
-/

namespace Descent.Unicode

/-- Ranges of code points, both ends included, ascending and apart from each other. -/
abbrev Ranges := List (Nat × Nat)

namespace Ranges

def contains : Ranges → Nat → Bool
  | [], _ => false
  | (first, last) :: rest, code => first ≤ code && (code ≤ last || contains rest code)

/-- The scalar values from `first` to `last`: all code points but the surrogates. -/
def between (first last : Nat) : Ranges :=
  if last < 0xD800 ∨ 0xDFFF < first then if first ≤ last then [(first, last)] else []
  else
    (if first < 0xD800 then [(first, 0xD7FF)] else []) ++
      if 0xDFFF < last then [(0xE000, last)] else []

private def join (first last : Nat) : List (Nat × Nat) → Ranges
  | [] => [(first, last)]
  | (next, stop) :: rest =>
    if next ≤ last + 1 then join first (max last stop) rest
    else (first, last) :: join next stop rest

/-- The set of any ranges, in whatever order and however they overlap. -/
def ofList (ranges : List (Nat × Nat)) : Ranges :=
  match ranges.mergeSort fun first second => first.1 ≤ second.1 with
  | [] => []
  | (first, last) :: rest => join first last rest

def union (first second : Ranges) : Ranges := ofList (first ++ second)

private def complFrom (next : Nat) : Ranges → Ranges
  | [] => between next 0x10FFFF
  | (first, last) :: rest =>
    (if next < first then between next (first - 1) else []) ++ complFrom (last + 1) rest

def compl (ranges : Ranges) : Ranges := complFrom 0 ranges

def inter (first second : Ranges) : Ranges := (first.compl.union second.compl).compl

def diff (first second : Ranges) : Ranges := first.inter second.compl

def symmDiff (first second : Ranges) : Ranges := (first.diff second).union (second.diff first)

def ofRuns (runs : List (Nat × Nat × Nat)) : Ranges :=
  ofList <| runs.flatMap fun (first, last, step) =>
    (List.range ((last - first) / step + 1)).map fun place =>
      (first + place * step, first + place * step)

def isAscii (ranges : Ranges) : Bool := ranges.all fun (_, last) => last < 0x80

end Ranges

end Descent.Unicode
