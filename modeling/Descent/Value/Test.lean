import Descent.Value.Basic

/-!
Tests of values, mostly of their text.
-/

namespace Descent.Value

def textIs (text : Text) (value : Value) : Bool := value.toText == text

def textIsOneOf (texts : List Text) (value : Value) : Bool := texts.contains value.toText

def countAtLeast (least : Nat) (value : Value) : Bool := least ≤ value.count

def lengthAtLeast (least : Nat) (value : Value) : Bool := least ≤ value.toText.length

def isEven (value : Value) : Bool := value.toInt % 2 == 0

def allLetters (value : Value) : Bool := value.toText.all Char.isAlpha

def allDigits (value : Value) : Bool := value.toText.all Char.isDigit

end Descent.Value
