import Descent.Unicode.Ranges

/-!
Symbols as the bytes of UTF-8: the encoding of a symbol, and of a set of symbols as sequences of
byte ranges.

A sequence stands for all byte strings that have their bytes in its ranges, in order. The sequences
of a set stand for the encodings of its symbols and no other byte strings, and ascend as the symbols
do.
-/

namespace Descent.Unicode.Utf8

abbrev ByteRange := Nat × Nat

def encode (symbol : Char) : List Nat := (String.utf8EncodeChar symbol).map UInt8.toNat

def lengthClasses : Ranges :=
  [(0, 0x7F), (0x80, 0x7FF), (0x800, 0xD7FF), (0xE000, 0xFFFF), (0x10000, 0x10FFFF)]

/-- The parts of a range that lie in blocks of the given sizes: up to the first border of a block,
what fills blocks and is parted into larger ones, and from the last border on. A range within one
block is kept whole. -/
def alignTo : List Nat → Nat → Nat → Ranges
  | [], first, last => [(first, last)]
  | size :: sizes, first, last =>
    if first / size = last / size then [(first, last)]
    else
      let next := (first + size - 1) / size * size
      let stop := (last + 1) / size * size
      (if first < next then [(first, next - 1)] else []) ++
        (if next < stop then alignTo sizes next (stop - 1) else []) ++
          if stop ≤ last then [(stop, last)] else []

def sequence (first last : Nat) : List ByteRange :=
  (encode (.ofNat first)).zip (encode (.ofNat last))

/-- The sequences of a set. Symbols are parted at the values where a byte of their encoding but the
last would change within a range. -/
def sequences (ranges : Ranges) : List (List ByteRange) :=
  ranges.flatMap fun (first, last) =>
    lengthClasses.flatMap fun (low, high) =>
      let first := max first low
      let last := min last high
      if last < first then []
      else if high = 0x7F then [sequence first last]
      else (alignTo [0x40, 0x1000, 0x40000] first last).map fun (first, last) => sequence first last

end Descent.Unicode.Utf8
