import Descent.Regex.Escape

/-!
Bracketed sets: symbols, ranges, escapes, named ASCII classes and nested brackets, joined by
operators of one rank that group to the left.

With the set a bracket has a nesting: how many levels its notation has, brackets, lists of two items
or more and operators each being one.
-/

namespace Descent.Regex

structure Nested where
  set : CharClass
  nesting : Nat

structure Bracket where
  negated : Bool
  /-- The operator that waits for its right side, with its left side. -/
  pending? : Option ((CharClass → CharClass → CharClass) × Nested) := none
  /-- What has been read since the last operator: how many items, their union and their deepest
  nesting. -/
  count : Nat := 0
  items : CharClass := []
  nesting : Nat := 0

namespace Bracket

def add (bracket : Bracket) (item : Nested) : Bracket :=
  { bracket with
    count := bracket.count + 1
    items := bracket.items ++ item.set
    nesting := max bracket.nesting item.nesting }

def list (bracket : Bracket) : Nested :=
  { set := .ofList bracket.items
    nesting := if bracket.count ≤ 1 then bracket.nesting else bracket.nesting + 1 }

def joined (bracket : Bracket) (flags : Flags) : Nested :=
  let right := bracket.list
  match bracket.pending? with
  | none => right
  | some (operator, left) =>
    { set := operator (flags.fold left.set) (flags.fold right.set)
      nesting := max left.nesting right.nesting + 1 }

def operate (bracket : Bracket) (flags : Flags)
    (operator : CharClass → CharClass → CharClass) : Bracket :=
  { negated := bracket.negated, pending? := some (operator, bracket.joined flags) }

def close? (bracket : Bracket) (flags : Flags) : Option Nested := do
  let joined := bracket.joined flags
  return { set := ← flags.negate? bracket.negated (flags.fold joined.set)
           nesting := joined.nesting + 1 }

def readCaret (flags : Flags) (text : Text) : Bool × Text :=
  match flags.skip text with
  | '^' :: rest => (true, flags.skip rest)
  | rest => (false, rest)

/-- A bracket that opens with hyphens, which stand for themselves, or else with a closing bracket
that does. -/
def opened (flags : Flags) (negated : Bool) (hyphens text : Text) : Bracket × Text :=
  let single (symbol : Char) : Nested := ⟨.single symbol, 0⟩
  let bracket := hyphens.foldl (fun bracket hyphen => bracket.add (single hyphen)) { negated }
  match hyphens, text with
  | [], ']' :: rest => (bracket.add (single ']'), flags.skip rest)
  | _, _ => (bracket, text)

def readOpening (flags : Flags) (text : Text) : Bracket × Text :=
  let (negated, text) := readCaret flags text
  let (hyphens, text) := flags.takeRun (· == '-') text.length text
  opened flags negated hyphens text

def readClass? (text : Text) : Option (CharClass × Text) := do
  let name := text.takeWhile (· != ':')
  let ':' :: ']' :: rest := text.drop name.length | none
  return (← CharClass.ascii? (.ofList name), rest)

/-- Reads a named ASCII class behind its opening bracket. What is not one is a nested bracket. -/
def readNamed? : Text → Option ((Bool × CharClass) × Text)
  | ':' :: '^' :: rest => (readClass? rest).map fun (set, rest) => ((true, set), rest)
  | ':' :: rest => (readClass? rest).map fun (set, rest) => ((false, set), rest)
  | _ => none

def readItem (flags : Flags) : Text → Option (Escape × Text)
  | [] => none
  | '\\' :: rest => readEscape flags rest
  | symbol :: rest => some (.char symbol, rest)

/-- The symbols from one to another, which all have to be ASCII where sets are sets of bytes. -/
def range? (flags : Flags) (first last : Char) : Option CharClass :=
  if first ≤ last && (flags.unicode || last ≤ '\x7F') then some (.range first last) else none

/-- What follows a hyphen that makes a range. A hyphen before what seems to be the closing bracket or
another hyphen makes none. -/
def rangeEnd? (flags : Flags) : Text → Option Text
  | '-' :: behind =>
    if flags.peek behind = some ']' ∨ flags.peek behind = some '-' then none
    else some (flags.skip behind)
  | _ => none

def readRange (flags : Flags) (text : Text) : Option (CharClass × Text) := do
  let (item, rest) ← readItem flags text
  let rest := flags.skip rest
  match item, rangeEnd? flags rest with
  | .char first, some behind =>
    let (.char last, rest) ← readItem flags behind | none
    return (← range? flags first last, rest)
  | .char symbol, none => return (← range? flags symbol symbol, rest)
  | .oneOf set, none => return (set, rest)
  | _, _ => none

def readRest (flags : Flags) : Nat → Bracket → Text → Option (Nested × Text)
  | 0, _, _ => none
  | depth + 1, bracket, text =>
    match flags.skip text with
    | [] => none
    | ']' :: rest => (bracket.close? flags).map (·, rest)
    | '&' :: '&' :: rest => readRest flags depth (bracket.operate flags .inter) rest
    | '-' :: '-' :: rest => readRest flags depth (bracket.operate flags .diff) rest
    | '~' :: '~' :: rest => readRest flags depth (bracket.operate flags .symmDiff) rest
    | '[' :: rest =>
      match readNamed? rest with
      | some ((negated, set), rest) => do
        let set ← flags.negate? negated (flags.fold set)
        readRest flags depth (bracket.add ⟨set, 0⟩) rest
      | none => do
        let (nested, rest) := readOpening flags rest
        let (nested, rest) ← readRest flags depth nested rest
        readRest flags depth (bracket.add nested) rest
    | text => do
      let (set, rest) ← readRange flags text
      readRest flags depth (bracket.add ⟨set, 0⟩) rest

def read (flags : Flags) (text : Text) : Option (Nested × Text) :=
  let (bracket, rest) := readOpening flags text
  readRest flags (text.length + 1) bracket rest

end Bracket

end Descent.Regex
