import Descent.Regex.Reader
import Descent.Regex.Search
import Descent.Regex.Size
import Descent.Text

/-!
Patterns: a notation, shown in messages as it was given, and a search of a text for its groups.

What a search finds is stated in symbols, so it can neither cut a symbol nor lie outside the text
once it is turned into bytes and texts.
-/

namespace Descent

/-- What a group took part with, in bytes of the text that was searched. -/
structure Capture where
  start : Nat
  stop : Nat
  text : Text
  deriving DecidableEq, Repr

def Capture.of (text : Text) (start stop : Nat) : Capture where
  start := Text.byteSize (text.take start)
  stop := Text.byteSize (text.take stop)
  text := (text.take stop).drop start

/-- Groups from group 0 on, the whole match; `none` for one that took no part. -/
structure Captures where
  groups : List (Option Capture)
  names : List (Text × Nat)
  deriving DecidableEq, Repr

def Captures.group? (captures : Captures) (number : Nat) : Option Capture :=
  captures.groups[number]?.join

def Captures.named? (captures : Captures) (name : Text) : Option Capture :=
  (captures.names.lookup name).bind captures.group?

structure Pattern where
  shown : Text
  names : List (Text × Nat)
  /-- The groups of the leftmost match, each from one symbol to another. -/
  search : Text → Option (List (Option (Nat × Nat)))

namespace Pattern

/-- The pattern that is shown as `shown` and searches as the expression `source` says. The expression
must not be too large. -/
def compile? (shown source : Text) : Option Pattern := do
  let (regex, names) ← Regex.ofText? source
  if Regex.Size.fits regex then return { shown, names, search := regex.program.search } else none

def ofText? (text : Text) : Option Pattern := compile? text text

/-- A pattern that looks at the start of a text only. The anchor is put before the notation itself,
whose parentheses therefore may close and open its group. -/
def anchored? (text : Text) : Option Pattern :=
  compile? text ("\\A(?:".toList ++ text ++ ")".toList)

def matchStart? (pattern : Pattern) (text : Text) : Option (Captures × Nat) :=
  match pattern.search text with
  | some (some (0, stop) :: groups) =>
    let capture := Option.map fun (start, stop) => Capture.of text start stop
    some (⟨(some (0, stop) :: groups).map capture, pattern.names⟩, stop)
  | _ => none

end Pattern

end Descent
