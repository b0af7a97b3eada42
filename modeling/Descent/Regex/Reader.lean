import Descent.Regex.Bracket

/-!
Reading regular expressions from their notation. `Regex.ofText?` is `none` exactly where the
notation is in error; no error is told from another.

What has been read is kept with its nesting: how many levels its notation has. Groups, repetitions,
brackets, and concatenations and alternations of two terms or more are one level each.
-/

namespace Descent.Regex

structure Term where
  regex : Regex
  nesting : Nat := 0

def Term.join (combine : List Regex → Regex) (terms : List Term) : Term :=
  match terms with
  | [] => { regex := combine [] }
  | [term] => term
  | terms =>
    { regex := combine (terms.map Term.regex)
      nesting := terms.foldl (fun deepest term => max deepest term.nesting) 0 + 1 }

structure Groups where
  next : Nat := 1
  names : List (Text × Nat) := []

def Groups.open? (groups : Groups) (name? : Option Text) : Option Groups :=
  match name? with
  | none => some { groups with next := groups.next + 1 }
  | some name =>
    if groups.names.any (·.1 == name) then none
    else some { next := groups.next + 1, names := groups.names ++ [(name, groups.next)] }

inductive Opening where
  /-- Flags for what follows up to the end of the enclosing group, closed already. -/
  | directive (flags : Flags)
  | group (number? : Option Nat) (flags : Flags) (groups : Groups)

/-- Names begin with a letter or an underscore; later dots, brackets and digits are allowed. -/
def isGroupName : Text → Bool
  | [] => false
  | first :: rest =>
    (first == '_' || Unicode.isAlphabetic first) &&
      rest.all fun symbol => symbol == '_' || symbol == '.' || symbol == '[' || symbol == ']' ||
        Unicode.isAlphabetic symbol || Unicode.isNumeric symbol

def readGroupName (text : Text) : Option (Text × Text) := do
  let name := text.takeWhile (· != '>')
  let '>' :: rest := text.drop name.length | none
  if isGroupName name then return (name, rest) else none

/-- Reads flags up to a colon or a closing parenthesis, which is given back with the rest. A letter
may come once, and one hyphen with letters behind it, which it turns off. -/
def readFlags (seen : List Char) (flags : Flags) : Text → Option (Flags × Text)
  | [] => none
  | symbol :: rest =>
    if symbol == ':' || symbol == ')' then
      if seen.head? == some '-' then none else some (flags, symbol :: rest)
    else if seen.contains symbol then none
    else if symbol == '-' then readFlags ('-' :: seen) flags rest
    else do
      let flags ← flags.set? symbol !(seen.contains '-')
      readFlags (symbol :: seen) flags rest

/-- Reads what follows an opening parenthesis. Tests of what lies ahead or behind are no part of the
notation, nor is an empty list of flags. -/
def readGroupOpening (flags : Flags) (groups : Groups) (text : Text) : Option (Opening × Text) :=
  let named (rest : Text) := do
    let (name, rest) ← readGroupName rest
    return (.group groups.next flags (← groups.open? name), rest)
  match flags.skip text with
  | '?' :: '=' :: _ | '?' :: '!' :: _ | '?' :: '<' :: '=' :: _ | '?' :: '<' :: '!' :: _ => none
  | '?' :: 'P' :: '<' :: rest => named rest
  | '?' :: '<' :: rest => named rest
  | '?' :: ')' :: _ => none
  | '?' :: rest => do
    match ← readFlags [] flags rest with
    | (flags, ')' :: rest) => return (.directive flags, rest)
    | (flags, rest) => return (.group none flags groups, rest.drop 1)
  | rest => do return (.group groups.next flags (← groups.open? none), rest)

/-- A decimal number with blanks around it. It has to fit in 32 bits. -/
def readCount (flags : Flags) (text : Text) : Option (Nat × Text) :=
  let text := text.dropWhile Unicode.isBlank
  let (digits, rest) := flags.takeRun CharClass.digit.holds text.length text
  let rest := (flags.takeRun Unicode.isBlank rest.length rest).2
  let count := digitsValue 10 digits
  if digits.isEmpty || count ≥ 1 <<< 32 then none else some (count, rest)

def readBounds (flags : Flags) (text : Text) : Option ((Nat × Option Nat) × Text) := do
  let (least, rest) ← readCount flags (flags.skip text)
  match rest with
  | '}' :: rest => return ((least, some least), rest)
  | ',' :: rest =>
    match flags.skip rest with
    | '}' :: rest => return ((least, none), rest)
    | rest =>
      let (most, '}' :: rest) ← readCount flags rest | none
      if least ≤ most then return ((least, some most), rest) else none
  | _ => none

structure Body where
  /-- The branches before the last bar, latest first. -/
  branches : List Term := []
  terms : List Term := []
  /-- Whether the last term may be repeated. There is none at the start of a branch, and flags are
  a term that may not. -/
  repeatable : Bool := false

namespace Body

def branch (body : Body) : Term := Term.join inOrder body.terms.reverse

def joined (body : Body) : Term := Term.join inChoice (body.branch :: body.branches).reverse

def push (body : Body) (term : Term) : Body :=
  { body with terms := term :: body.terms, repeatable := true }

def pushDirective (body : Body) : Body :=
  { body with terms := { regex := .empty } :: body.terms, repeatable := false }

def pushBar (body : Body) : Body := { branches := body.branch :: body.branches }

def repeat? (body : Body) (least : Nat) (most : Option Nat) (greedy : Bool) : Option Body :=
  match body.repeatable, body.terms with
  | true, last :: terms =>
    let repetition := repeated last.regex least most greedy
    some { body with terms := { regex := repetition, nesting := last.nesting + 1 } :: terms }
  | _, _ => none

end Body

def readLazy : Text → Bool × Text
  | '?' :: rest => (true, rest)
  | rest => (false, rest)

/-- Reads a group up to its closing parenthesis, or the whole notation up to its end. -/
def readBody : Nat → Bool → Flags → Groups → Body → Text → Option (Term × Groups × Text)
  | 0, _, _, _, _, _ => none
  | depth + 1, inGroup, flags, groups, body, text =>
    let quantified (least : Nat) (most : Option Nat) (rest : Text) := do
      let (isLazy, rest) := readLazy rest
      let body ← body.repeat? least most (isLazy == flags.swapGreed)
      readBody depth inGroup flags groups body rest
    let term (regex : Regex) (rest : Text) :=
      readBody depth inGroup flags groups (body.push { regex }) rest
    match flags.skip text with
    | [] => if inGroup then none else some (body.joined, groups, [])
    | ')' :: rest => if inGroup then some (body.joined, groups, rest) else none
    | '|' :: rest => readBody depth inGroup flags groups body.pushBar rest
    | '?' :: rest => quantified 0 (some 1) rest
    | '*' :: rest => quantified 0 none rest
    | '+' :: rest => quantified 1 none rest
    | '{' :: rest => do
      let ((least, most), rest) ← readBounds flags rest
      quantified least most (flags.skip rest)
    | '(' :: rest => do
      match ← readGroupOpening flags groups rest with
      | (.directive flags, rest) =>
        readBody depth inGroup flags groups body.pushDirective rest
      | (.group number? inner opened, rest) =>
        let (content, closed, rest) ← readBody depth true inner opened {} rest
        let regex := match number? with
          | some number => .group number content.regex
          | none => content.regex
        let group : Term := { regex, nesting := content.nesting + 1 }
        readBody depth inGroup flags closed (body.push group) rest
    | '[' :: rest => do
      let (bracket, rest) ← Bracket.read flags rest
      let term : Term := { regex := ofSet bracket.set, nesting := bracket.nesting }
      readBody depth inGroup flags groups (body.push term) rest
    | '\\' :: rest => do
      match ← readEscape flags rest with
      | (.char symbol, rest) => term (flags.symbol symbol) rest
      | (.oneOf set, rest) => term (ofSet set) rest
      | (.lookAt look, rest) => term (.lookAt look) rest
    | '.' :: rest => do term (ofSet (← flags.dot?)) rest
    | '^' :: rest => term (.lookAt flags.lineStart) rest
    | '$' :: rest => term (.lookAt flags.lineEnd) rest
    | symbol :: rest => term (flags.symbol symbol) rest

def nestingLimit : Nat := 250

/-- The expression that a text denotes, as group 0, and the names of its groups. -/
def ofText? (text : Text) : Option (Regex × List (Text × Nat)) := do
  let (content, groups, _) ← readBody (text.length + 1) false {} {} {} text
  if content.nesting ≤ nestingLimit then return (.group 0 content.regex, groups.names) else none

end Descent.Regex
