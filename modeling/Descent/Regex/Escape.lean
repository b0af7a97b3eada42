import Descent.Regex.Flags

/-!
Escapes: what a backslash and the symbols behind it stand for. Every reader here answers `none` for
notation that is in error.
-/

namespace Descent.Regex

inductive Escape where
  | char (symbol : Char)
  | oneOf (set : CharClass)
  | lookAt (look : Look)

def digitsValue (base : Nat) (digits : Text) : Nat :=
  digits.foldl (fun value digit => value * base + digitValue digit) 0
where
  digitValue (digit : Char) : Nat :=
    if digit ≤ '9' then digit.toNat - '0'.toNat
    else if digit ≤ 'F' then digit.toNat - 'A'.toNat + 10
    else digit.toNat - 'a'.toNat + 10

def symbolOf? (code : Nat) : Option Char := if code.isValidChar then some (.ofNat code) else none

/-- Hexadecimal digits: as many as given, or any number of them in braces. Two digits stand for a
byte where sets are sets of bytes, and so for an ASCII symbol or none. -/
def readHex (flags : Flags) (count : Nat) (text : Text) : Option (Escape × Text) :=
  match flags.skip text with
  | '{' :: rest => do
    let rest := flags.skip rest
    let (digits, '}' :: rest) := flags.takeRun CharClass.hexDigit.holds rest.length rest | none
    if digits.isEmpty then none
    else return (.char (← symbolOf? (digitsValue 16 digits)), flags.skip rest)
  | rest => do
    let (digits, rest) := flags.takeRun CharClass.hexDigit.holds count rest
    let symbol ← symbolOf? (digitsValue 16 digits)
    if digits.length < count || !flags.unicode && count == 2 && '\x7F' < symbol then none
    else return (.char symbol, rest)

def wordTest? (name : String) : Option WordTest :=
  match name with
  | "start" => some .start
  | "end" => some .stop
  | "start-half" => some .startHalf
  | "end-half" => some .stopHalf
  | _ => none

/-- The test that `b` stands for. Braces that begin with a letter or a hyphen name another one,
other braces are a repetition and stay in the rest. -/
def readBoundary (flags : Flags) (text : Text) : Option (WordTest × Text) :=
  let nameSymbol (symbol : Char) : Bool := symbol.isAlpha || symbol == '-'
  match text with
  | '{' :: inner =>
    match flags.skip inner with
    | [] => none
    | first :: more =>
      if nameSymbol first then do
        let (name, '}' :: rest) := flags.takeRun nameSymbol (more.length + 1) (first :: more) | none
        return (← wordTest? (.ofList name), rest)
      else some (.boundary, text)
  | _ => some (.boundary, text)

def letterSet? (flags : Flags) (negated : Bool) (set ascii : CharClass) : Option CharClass :=
  flags.negate? negated (if flags.unicode then set else ascii)

private def splitAt? (mark : Text) : Text → Option (Text × Text)
  | [] => none
  | symbol :: rest =>
    if mark.isPrefixOf (symbol :: rest) then some ([], (symbol :: rest).drop mark.length)
    else (splitAt? mark rest).map fun (before, behind) => (symbol :: before, behind)

/-- The set that a description in braces stands for: a name, or a property and its value with an
equality sign, a colon, or the sign of inequality between them. -/
def propertySet? (description : Text) : Option (Bool × CharClass) :=
  match splitAt? ['!', '='] description with
  | some (property, value) => (Unicode.Property.valued? property value).map (true, ·)
  | none =>
    match (splitAt? [':'] description).or (splitAt? ['='] description) with
    | some (property, value) => (Unicode.Property.valued? property value).map (false, ·)
    | none => (Unicode.Property.named? description).map (false, ·)

def readProperty (flags : Flags) (negated : Bool) (text : Text) : Option (CharClass × Text) := do
  let (description, rest) ← match flags.skip text with
    | '{' :: rest =>
      let rest := flags.skip rest
      match flags.takeRun (· != '}') rest.length rest with
      | (description, '}' :: rest) => some (description, rest)
      | _ => none
    | '\\' :: _ | [] => none
    | letter :: rest => some ([letter], flags.skip rest)
  let (unequal, set) ← propertySet? description
  if flags.unicode then return ((flags.fold set).negateIf (negated != unequal), rest) else none

/-- Symbols that may be escaped to stand for themselves: of ASCII, all but letters, digits and the
angle brackets. -/
def isEscapable (symbol : Char) : Bool :=
  symbol ≤ '\x7F' && !symbol.isAlphanum && symbol != '<' && symbol != '>'

def readEscape (flags : Flags) : Text → Option (Escape × Text)
  | [] => none
  | symbol :: rest =>
    let oneOf (set? : Option CharClass) := set?.map fun set => (Escape.oneOf set, rest)
    let word (test : WordTest) := some (Escape.lookAt (.word test flags.unicode), rest)
    match symbol with
    | 'x' => readHex flags 2 rest
    | 'u' => readHex flags 4 rest
    | 'U' => readHex flags 8 rest
    | 'd' => oneOf (letterSet? flags false Unicode.decimalNumber CharClass.digit)
    | 'D' => oneOf (letterSet? flags true Unicode.decimalNumber CharClass.digit)
    | 's' => oneOf (letterSet? flags false Unicode.whiteSpace CharClass.space)
    | 'S' => oneOf (letterSet? flags true Unicode.whiteSpace CharClass.space)
    | 'w' => oneOf (letterSet? flags false Unicode.word CharClass.word)
    | 'W' => oneOf (letterSet? flags true Unicode.word CharClass.word)
    | 'p' => (readProperty flags false rest).map fun (set, rest) => (.oneOf set, rest)
    | 'P' => (readProperty flags true rest).map fun (set, rest) => (.oneOf set, rest)
    | 'a' => some (.char '\x07', rest)
    | 'f' => some (.char '\x0C', rest)
    | 't' => some (.char '\t', rest)
    | 'n' => some (.char '\n', rest)
    | 'r' => some (.char '\r', rest)
    | 'v' => some (.char '\x0B', rest)
    | 'A' => some (.lookAt .textStart, rest)
    | 'z' => some (.lookAt .textEnd, rest)
    | 'b' => (readBoundary flags rest).map fun (test, rest) =>
      (.lookAt (.word test flags.unicode), rest)
    | 'B' => word .noBoundary
    | '<' => word .start
    | '>' => word .stop
    | _ => if isEscapable symbol then some (.char symbol, rest) else none

end Descent.Regex
