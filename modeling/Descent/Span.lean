import Descent.Text

/-!
Spans: the part of a text that a value was read from. A span is recorded as two bytes of its text
and nothing is asked of them, so its length and its slice may be missing.
-/

namespace Descent

structure Span where
  source : Text
  start : Nat
  stop : Nat
  deriving DecidableEq, Repr

namespace Span

/-- Bytes from the start to the stop, unless the span runs backwards. -/
def length? (span : Span) : Option Nat :=
  if span.start ≤ span.stop then some (span.stop - span.start) else none

def isEmpty (span : Span) : Bool := span.start = span.stop

/-- The text of the span, unless it runs backwards, leaves the source or cuts a symbol. -/
def slice? (span : Span) : Option Text := span.source.slice? span.start span.stop

end Span

end Descent
