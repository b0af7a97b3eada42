import Descent.Location

/-!
Cursors: places in a text that move by symbols and are counted in bytes.

A cursor is plain data. Moving never leaves the text and never stops inside a symbol, provided the
move began at a place where a symbol begins or the text ends; `OnSymbol` says that of a cursor.
-/

namespace Descent

structure Cursor where
  source : Text
  /-- Bytes before the cursor. -/
  index : Nat
  deriving DecidableEq, Repr

namespace Cursor

def start (source : Text) : Cursor := { source, index := 0 }

/-- The cursor stands where a symbol begins or the text ends. -/
def OnSymbol (cursor : Cursor) : Prop :=
  ∃ before after, cursor.source = before ++ after ∧ cursor.index = Text.byteSize before

def before (cursor : Cursor) : Text := (cursor.source.takeBytes? cursor.index).getD cursor.source

def remainder (cursor : Cursor) : Text := (cursor.source.dropBytes? cursor.index).getD []

def current (cursor : Cursor) : Option Char := cursor.remainder.head?

def skipBytes (cursor : Cursor) (count : Nat) : Cursor :=
  { cursor with index := min (cursor.index + count) cursor.source.byteSize }

/-- The cursor `count` symbols on, at most at the end. -/
def advance (cursor : Cursor) (count : Nat) : Cursor :=
  cursor.skipBytes (Text.byteSize (cursor.remainder.take count))

/-- The cursor one symbol back, at least at the start. -/
def retreat (cursor : Cursor) : Cursor :=
  { cursor with index := Text.byteSize cursor.before.dropLast }

def isAtEnd (cursor : Cursor) : Bool := cursor.source.byteSize ≤ cursor.index

def location (cursor : Cursor) : Location := .of cursor.source cursor.index

end Cursor

end Descent
