import Descent.Text

/-!
Lines of a text and places in them. Lines are counted from 1 and offsets in bytes from the start
of the line.
-/

namespace Descent

structure Location where
  line : Nat
  byteOffset : Nat
  deriving DecidableEq, Repr

/-- The location of the byte `index` of a text: the text before it has as many lines as the number
of the line it stands on, and the last of them is what precedes it there. -/
def Location.of (source : Text) (index : Nat) : Location :=
  let before := ((source.takeBytes? index).getD source).lines
  { line := before.length, byteOffset := Text.byteSize (before.getLastD []) }

end Descent
