import Descent.Grammar.Basic
import Descent.Parser.Chain
import Descent.Parser.Entry
import Descent.Parser.Primitive
import Descent.Parser.Sequence
import Descent.Parser.Transform

/-!
Running grammars: every form of grammar is the parser of its name.

A run descends one step into a part or a rule and so is limited in depth; a run that comes to its
limit, or to a rule that is not there, is unfinished. As long as leaves and revisions stay on the
text, `Grammar.depthFor` is deep enough for every run that ends: a run in which a node is entered at
a cursor where it is being run already does not end, and a repetition that comes back to a cursor
does not either. On another text, to which a function may go, there may be more places than that.
-/

namespace Descent

def Leaf.parser (leaf : Leaf) : Parser Value := do
  match leaf (← Parser.here) with
  | .ok (value, target) =>
    Parser.moveTo target
    return value
  | .error failure => Parser.fail failure

namespace Grammar

def run (rules : Rules) : Nat → Grammar → Cursor → Run Value
  | 0, _, cursor => Parser.unfinished cursor
  | depth + 1, grammar, cursor =>
    let part : Grammar → Parser Value := run rules depth
    let parser : Parser Value :=
      match grammar with
      | .character expected => .char <$> Parser.character expected
      | .literal expected => .text <$> Parser.literal expected
      | .pattern searched => .captures <$> Parser.pattern searched
      | .leaf function => function.parser
      | .tuple parts => .tuple <$> Parser.sequence (parts.map part)
      | .list parts => .list <$> Parser.sequence (parts.map part)
      | .choose alternatives => Parser.choose (alternatives.map part)
      | .optional body => (·.elim .none .some) <$> (part body).optional
      | .many body least => .list <$> (part body).many depth least
      | .interpose item separator => .list <$> (part item).interpose depth (part separator)
      | .between opening closing inner =>
        (part opening).between (part closing) (part inner)
      | .chainl operand operator fold => (part operand).chainl depth (fold <$> part operator)
      | .map body mapping => mapping <$> part body
      | .mapState body revision => (part body).mapState revision
      | .filter body test message => (part body).filter test message
      | .indexed body => (fun (value, span) => .spanned value span) <$> (part body).indexed
      | .rule name =>
        match rules.lookup name with
        | some body => part body
        | none => Parser.unfinished
    parser cursor

/-- A depth that suffices on one text: every node may be entered at every place, and a repetition may
go on from every place. -/
def depthFor (rules : Rules) (grammar : Grammar) (source : Text) : Nat :=
  (rules.size + grammar.size + 1) * (source.length + 2)

/-- The grammar as a parser, deep enough for runs that stay on the text. -/
def parser (rules : Rules) (grammar : Grammar) : Parser Value := fun cursor =>
  grammar.run rules (grammar.depthFor rules cursor.source) cursor

def parse (rules : Rules) (grammar : Grammar) (source : Text) : Run Value :=
  (grammar.parser rules).parse source

end Grammar

end Descent
