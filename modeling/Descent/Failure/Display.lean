import Descent.Failure

/-!
The display of a failure: a header, an empty line, and the lines around the failure with a pointer
under the failing one. The pointer is placed by bytes, hence right of the failing symbol where
symbols before it take more than one.
-/

namespace Descent.Failure

/-- What precedes the text of line `number`; the failing line carries a mark. -/
def margin (number : Nat) (marked : Bool) : Text :=
  (if marked then "  > ".toList else "    ".toList) ++ Text.ofNat number ++ " | ".toList

def displayLine (location : Location) (number : Nat) (line : Text) : List Text :=
  if number = location.line then
    let margin := margin number true
    [margin ++ line,
      List.replicate (margin.byteSize + location.byteOffset) ' ' ++ "^--- here".toList]
  else [margin number false ++ line]

/-- The lines from two before to two after the failing one, as they are displayed. -/
def contextLines (source : Text) (location : Location) : List Text :=
  (source.lines.zipIdx 1).flatMap fun (line, number) =>
    if location.line - 2 ≤ number ∧ number ≤ location.line + 2 then
      displayLine location number line
    else []

def display (failure : Failure) : Text :=
  let location := failure.cursor.location
  let header := "Syntax error at line ".toList ++ Text.ofNat location.line ++ ", byte offset ".toList ++
    Text.ofNat location.byteOffset ++ ": ".toList ++ failure.message
  (header :: [] :: contextLines failure.cursor.source location).flatMap (· ++ ['\n'])

end Descent.Failure
