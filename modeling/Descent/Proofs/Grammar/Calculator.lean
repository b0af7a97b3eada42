import Descent.Proofs.Grammar.Adequacy
import Descent.Proofs.Grammar.Spelling
import Descent.Proofs.Pattern

/-!
# A calculator reads what it prints

Expressions over numbers and four operators, printed with no more parentheses
than they need, and the grammar of three rules that reads them: atoms, chains of
atoms joined by the strong operators, and chains of those joined by the weak.

A chain is read from the left, so the tree on the left of an operator is printed
first but joined last: what is derived for an expression is said together with
how the chain that it begins goes on (`Continues`).
-/

namespace Descent

theorem Value.numberOf?_ofNat {number : Nat} (hnumber : number < 2 ^ 63) :
    numberOf? (.ofNat number) = Option.some (.ofNat number) := by
  have hdigits : ∀ symbol ∈ Text.ofNat number, symbol.isDigit = true :=
    fun symbol => Nat.isDigit_of_mem_toDigits (by decide) (by decide)
  have hsum : (Text.ofNat number).foldl
      (fun value digit => value * 10 + (digit.toNat - '0'.toNat)) 0 = number := by
    simpa only [Text.ofNat, Nat.ofDigitChars_eq_foldl, Nat.mul_comm 10] using
      Nat.ofDigitChars_ten_toDigits
  have hempty : (Text.ofNat number).isEmpty = false :=
    List.isEmpty_eq_false_iff.mpr Nat.toDigits_ne_nil
  have hall : (Text.ofNat number).all Char.isDigit = true := List.all_eq_true.mpr hdigits
  have hfits : Int64.minValue.toInt ≤ (number : Int) ∧ (number : Int) ≤ Int64.maxValue.toInt := by
    constructor
    · exact Int.le_trans (by decide) (Int.natCast_nonneg number)
    · have : Int64.maxValue.toInt = 2 ^ 63 - 1 := by decide
      omega
  unfold numberOf?
  split
  · rename_i hsign
    split at hsign
    · rename_i later hminus
      exact absurd (hdigits '-' (hminus ▸ List.mem_cons_self)) (by decide)
    · rename_i later hplus
      exact absurd (hdigits '+' (hplus ▸ List.mem_cons_self)) (by decide)
    · cases hsign
      simp only [hempty, hall, hsum, hfits, Bool.not_true, Bool.or_false, Bool.false_eq_true,
        if_false, and_self, if_true, Int64.ofInt_eq_ofNat]

namespace Calculator

open Grammar

inductive Operator where
  | plus
  | minus
  | times
  | divided

namespace Operator

def symbol : Operator → Char
  | .plus => '+'
  | .minus => '-'
  | .times => '*'
  | .divided => '/'

theorem symbol_inj (operator : Operator) {other : Operator}
    (h : operator.symbol = other.symbol) : operator = other := by
  cases operator <;> cases other <;> first | rfl | cases h

def strength : Operator → Nat
  | .plus | .minus => 0
  | .times | .divided => 1

end Operator

inductive Expr where
  | number (value : Fin (2 ^ 63))
  | operation (operator : Operator) (left right : Expr)

namespace Expr

/-- As strong as the operator that was joined last; a number is stronger than any operator. -/
def strength : Expr → Nat
  | .number _ => 2
  | .operation operator _ _ => operator.strength

def encloseIf (weak : Bool) (text : Text) : Text :=
  if weak then '(' :: text ++ [')'] else text

/-- Left operands stand in parentheses if they are weaker than the operator, right operands also if
they are as strong. -/
def print : Expr → Text
  | .number value => .ofNat value
  | .operation operator left right =>
    encloseIf (left.strength < operator.strength) left.print ++
      operator.symbol :: encloseIf (right.strength ≤ operator.strength) right.print

def toValue : Expr → Value
  | .number value => .int (.ofNat value)
  | .operation operator left right => .node [operator.symbol] left.toValue right.toValue

theorem toValue_injective : Function.Injective toValue := by
  intro tree tree' h
  induction tree generalizing tree' with
  | number value =>
    cases tree' with
    | number value' =>
      have hnumber := congrArg Int64.toNatClampNeg (Value.int.inj h)
      rw [Int64.toNatClampNeg_ofNat_of_lt value.isLt,
        Int64.toNatClampNeg_ofNat_of_lt value'.isLt] at hnumber
      rw [Fin.ext hnumber]
    | operation => cases h
  | operation operator left right hleft hright =>
    cases tree' with
    | number => cases h
    | operation operator' left' right' =>
      obtain ⟨hsymbol, h, h'⟩ := Value.node.inj h
      rw [operator.symbol_inj (List.cons.inj hsymbol).1, hleft h, hright h']

end Expr

def isSign : Char → Bool := ['+', '-'].contains

def isFactor : Char → Bool := ['*', '/'].contains

structure Tokens where
  digits : Pattern
  factors : Pattern
  signs : Pattern
  readsDigits : digits.ReadsRun Char.isDigit
  readsFactors : factors.ReadsOne isFactor
  readsSigns : signs.ReadsOne isSign

def atom (digits : Pattern) : Grammar :=
  .choose [.map (.pattern digits) fun value => .int value.toInt,
    .between (.character '(') (.character ')') (.rule "expr".toList)]

def chain (operand : String) (operators : Pattern) : Grammar :=
  .chainl (.rule operand.toList) (.pattern operators) Value.Fold.node

def rules (digits factors signs : Pattern) : Rules :=
  [("atom".toList, atom digits), ("term".toList, chain "atom" factors),
    ("expr".toList, chain "term" signs)]

def rules? : Option Rules := do
  let digits ← Pattern.anchored? "[0-9]+".toList
  let factors ← Pattern.anchored? "[*/]".toList
  let signs ← Pattern.anchored? "[+-]".toList
  return rules digits factors signs

def Tokens.rules (tokens : Tokens) : Rules :=
  Calculator.rules tokens.digits tokens.factors tokens.signs

-- ---------------------------------------------------------------------------
-- Chains
-- ---------------------------------------------------------------------------

def Free (holds : Char → Bool) (text : Text) : Prop := text.head?.any holds = false

/-- Behind a value that a chain has joined so far, it goes on to a value and stops at a rest. -/
def Continues (rules : Rules) (operand : String) (operators : Pattern) (joined : Value)
    (text : Text) (value : Value) (rest : Text) : Prop :=
  ∃ pairs : List (Value × Value),
    Derives rules (.many (.tuple [.pattern operators, .rule operand.toList]) 0) text
      (.matched (.list (pairs.map fun (link, value) => .tuple [link, value])) rest) ∧
    pairs.foldl (fun joined (link, value) => Value.Fold.node link joined value) joined = value

section

variable {rules : Rules} {operand : String} {operators : Pattern} {holds : Char → Bool}
  {joined first right value : Value} {text middle rest : Text}

theorem Continues.done (h : operators.ReadsOne holds) (htext : Free holds text) :
    Continues rules operand operators joined text joined text := by
  refine ⟨[], .many_nil (.tuple_failed (.list_first_failed (.pattern_failed ?_))), rfl⟩
  exact h.matchStart?_eq_none htext

theorem Continues.next (h : operators.ReadsOne holds) (hsymbol : holds symbol = true)
    (hright : Derives rules (.rule operand.toList) text (.matched right middle))
    (hlater : Continues rules operand operators (.node [symbol] joined right) middle value rest) :
    Continues rules operand operators joined (symbol :: text) value rest := by
  obtain ⟨found, hfound⟩ := h.matchStart? hsymbol text
  obtain ⟨pairs, hderives, rfl⟩ := hlater
  have hlink : (Value.captures found).toText = [symbol] := Pattern.toText_captures hfound
  refine ⟨(.captures found, right) :: pairs, .many_cons ?_ hderives, ?_⟩
  · exact .tuple (.list_cons (.pattern hfound) (.list_cons hright .list_nil))
  · simp only [List.foldl_cons, Value.Fold.node, hlink]

theorem Continues.chain (hfirst : Derives rules (.rule operand.toList) text (.matched first middle))
    (h : Continues rules operand operators first middle value rest) :
    Derives rules (chain operand operators) text (.matched value rest) := by
  obtain ⟨pairs, hderives, rfl⟩ := h
  exact .chainl hfirst hderives

end

-- ---------------------------------------------------------------------------
-- Expressions
-- ---------------------------------------------------------------------------

variable {tokens : Tokens}

namespace Operator

theorem isFactor_symbol (operator : Operator) (h : operator.strength = 1) :
    isFactor operator.symbol = true := by
  cases operator <;> first | rfl | cases h

theorem isSign_symbol (operator : Operator) (h : operator.strength = 0) :
    isSign operator.symbol = true := by
  cases operator <;> first | rfl | cases h

theorem free_digit (operator : Operator) : Free Char.isDigit (operator.symbol :: text) := by
  cases operator <;> rfl

theorem free_factor (operator : Operator) (h : operator.strength = 0) :
    Free isFactor (operator.symbol :: text) := by
  cases operator <;> first | rfl | cases h

end Operator

/-- An expression is derived where a chain begins with it, on the levels that it is strong enough
for. -/
structure Derived (tokens : Tokens) (tree : Expr) : Prop where
  atom {rest} : 2 ≤ tree.strength → Free Char.isDigit rest →
    Derives tokens.rules (.rule "atom".toList) (tree.print ++ rest) (.matched tree.toValue rest)
  term {middle value rest} : 1 ≤ tree.strength → Free Char.isDigit middle →
    Continues tokens.rules "atom" tokens.factors tree.toValue middle value rest →
    Derives tokens.rules (.rule "term".toList) (tree.print ++ middle) (.matched value rest)
  expr {middle value rest} : Free Char.isDigit middle → Free isFactor middle →
    Continues tokens.rules "term" tokens.signs tree.toValue middle value rest →
    Derives tokens.rules (.rule "expr".toList) (tree.print ++ middle) (.matched value rest)

namespace Derived

theorem atom_rule (h : Derives tokens.rules (Calculator.atom tokens.digits) text result) :
    Derives tokens.rules (.rule "atom".toList) text result := .rule rfl h

theorem term_rule (h : Derives tokens.rules (chain "atom" tokens.factors) text result) :
    Derives tokens.rules (.rule "term".toList) text result := .rule rfl h

theorem expr_rule (h : Derives tokens.rules (chain "term" tokens.signs) text result) :
    Derives tokens.rules (.rule "expr".toList) text result := .rule rfl h

variable {tree left right : Expr} {operator : Operator} {rest : Text}

theorem enclosed (h : Derived tokens tree) (rest : Text) :
    Derives tokens.rules (.rule "atom".toList) ('(' :: tree.print ++ ')' :: rest)
      (.matched tree.toValue rest) := by
  have hinner : Derives tokens.rules (.rule "expr".toList) (tree.print ++ ')' :: rest)
      (.matched tree.toValue (')' :: rest)) :=
    h.expr rfl rfl (.done tokens.readsSigns rfl)
  refine atom_rule (.choose_later (.map_failed (.pattern_failed ?_)) (.choose_first ?_))
  · exact tokens.readsDigits.matchStart?_eq_none rfl
  · exact .between (.list_cons .character (.list_cons hinner (.list_cons .character .list_nil)))

theorem operand (h : Derived tokens tree) (hrest : Free Char.isDigit rest) :
    Derives tokens.rules (.rule "atom".toList)
      (Expr.encloseIf (tree.strength ≤ 1) tree.print ++ rest) (.matched tree.toValue rest) := by
  by_cases hweak : tree.strength ≤ 1
  · simpa [Expr.encloseIf, hweak] using h.enclosed rest
  · simpa [Expr.encloseIf, hweak] using h.atom (by omega) hrest

theorem addend (h : Derived tokens tree) (hdigit : Free Char.isDigit rest)
    (hfactor : Free isFactor rest) :
    Derives tokens.rules (.rule "term".toList)
      (Expr.encloseIf (tree.strength ≤ 0) tree.print ++ rest) (.matched tree.toValue rest) := by
  have hdone : Continues tokens.rules "atom" tokens.factors tree.toValue rest tree.toValue rest :=
    .done tokens.readsFactors hfactor
  by_cases hweak : tree.strength ≤ 0
  · simpa [Expr.encloseIf, hweak] using term_rule (hdone.chain (h.enclosed rest))
  · simpa [Expr.encloseIf, hweak] using h.term (by omega) hdigit hdone

theorem expr_of_term {value : Value}
    (h : ∀ middle value rest, Free Char.isDigit middle →
      Continues tokens.rules "atom" tokens.factors tree.toValue middle value rest →
      Derives tokens.rules (.rule "term".toList) (tree.print ++ middle) (.matched value rest))
    (hdigit : Free Char.isDigit middle) (hfactor : Free isFactor middle)
    (hlater : Continues tokens.rules "term" tokens.signs tree.toValue middle value rest) :
    Derives tokens.rules (.rule "expr".toList) (tree.print ++ middle) (.matched value rest) := by
  have hterm := h middle tree.toValue middle hdigit (.done tokens.readsFactors hfactor)
  exact expr_rule (hlater.chain hterm)

theorem atom_number (value : Fin (2 ^ 63)) (hrest : Free Char.isDigit rest) :
    Derives tokens.rules (.rule "atom".toList) (Text.ofNat value ++ rest)
      (.matched (.int (.ofNat value)) rest) := by
  have hne : Text.ofNat value ≠ [] := Nat.toDigits_ne_nil
  have hdigits : ∀ symbol ∈ Text.ofNat value, symbol.isDigit = true :=
    fun symbol => Nat.isDigit_of_mem_toDigits (by decide) (by decide)
  obtain ⟨found, hfound⟩ := tokens.readsDigits.matchStart? hne hdigits hrest
  have hinner : Derives tokens.rules (.pattern tokens.digits) (Text.ofNat value ++ rest)
      (.matched (.captures found) rest) := by
    simpa using Derives.pattern hfound
  have hvalue : Value.toInt (.captures found) = .ofNat value := by
    simp only [Value.toInt, Pattern.toText_captures hfound, List.take_left,
      Value.numberOf?_ofNat value.isLt, Option.getD_some]
  exact atom_rule (.choose_first (hvalue ▸ .map hinner))

theorem number (value : Fin (2 ^ 63)) : Derived tokens (.number value) := by
  have hterm : ∀ middle found rest, Free Char.isDigit middle →
      Continues tokens.rules "atom" tokens.factors (.int (.ofNat value)) middle found rest →
      Derives tokens.rules (.rule "term".toList) (Text.ofNat value ++ middle)
        (.matched found rest) :=
    fun _ _ _ hdigit hlater => term_rule (hlater.chain (atom_number value hdigit))
  exact {
    atom := fun _ => atom_number value
    term := fun _ => hterm _ _ _
    expr := expr_of_term hterm }

theorem product (hleft : Derived tokens left) (hright : Derived tokens right)
    (hstrength : operator.strength = 1) : Derived tokens (.operation operator left right) := by
  have hterm : ∀ middle value rest, Free Char.isDigit middle →
      Continues tokens.rules "atom" tokens.factors (Expr.operation operator left right).toValue
        middle value rest →
      Derives tokens.rules (.rule "term".toList)
        ((Expr.operation operator left right).print ++ middle) (.matched value rest) := by
    intro middle value rest hdigit hlater
    have hnext : Continues tokens.rules "atom" tokens.factors left.toValue
        (operator.symbol :: (Expr.encloseIf (right.strength ≤ 1) right.print ++ middle))
        value rest :=
      .next tokens.readsFactors (operator.isFactor_symbol hstrength) (hright.operand hdigit) hlater
    rw [Expr.print, hstrength, List.append_assoc, List.cons_append]
    -- A sum on the left is an atom that begins the chain; a product has begun it already.
    by_cases hweak : left.strength < 1
    · simpa [Expr.encloseIf, hweak] using term_rule (hnext.chain (hleft.enclosed _))
    · simpa [Expr.encloseIf, hweak] using hleft.term (by omega) operator.free_digit hnext
  exact {
    atom := fun hatom => absurd hatom (by simp [Expr.strength, hstrength])
    term := fun _ => hterm _ _ _
    expr := expr_of_term hterm }

theorem sum (hleft : Derived tokens left) (hright : Derived tokens right)
    (hstrength : operator.strength = 0) : Derived tokens (.operation operator left right) where
  atom hatom := absurd hatom (by simp [Expr.strength, hstrength])
  term hterm := absurd hterm (by simp [Expr.strength, hstrength])
  expr {middle value rest} hdigit hfactor hlater := by
    have hnext : Continues tokens.rules "term" tokens.signs left.toValue
        (operator.symbol :: (Expr.encloseIf (right.strength ≤ 0) right.print ++ middle))
        value rest :=
      .next tokens.readsSigns (operator.isSign_symbol hstrength) (hright.addend hdigit hfactor)
        hlater
    rw [Expr.print, hstrength, List.append_assoc, List.cons_append]
    exact hleft.expr operator.free_digit (operator.free_factor hstrength) hnext

theorem all (tree : Expr) : Derived tokens tree := by
  induction tree with
  | number value => exact .number value
  | operation operator left right hleft hright =>
    cases operator with
    | plus | minus => exact .sum hleft hright rfl
    | times | divided => exact .product hleft hright rfl

end Derived

theorem symbolic : (Grammar.rule "expr".toList).Every tokens.rules Symbolic := by
  have hnodes : ∀ part ∈ allNodes tokens.rules (.rule "expr".toList), Symbolic part := by
    simp [allNodes, nodes_eq, parts, Tokens.rules, rules, atom, chain, Symbolic]
  exact fun part hpart => hnodes part hpart.mem_allNodes

theorem exists_tokens : ∃ tokens : Tokens, rules? = some tokens.rules := by
  obtain ⟨digits, hdigits, readsDigits⟩ := Pattern.anchored?_digits
  obtain ⟨factors, hfactors, readsFactors⟩ := Pattern.anchored?_factors
  obtain ⟨signs, hsigns, readsSigns⟩ := Pattern.anchored?_signs
  refine ⟨⟨digits, factors, signs, readsDigits, readsFactors, readsSigns⟩, ?_⟩
  simp only [rules?, hdigits, hfactors, hsigns]
  rfl

/-- The grammar reads every expression back from its print, whatever follows that is neither a digit
nor an operator. The value it yields is that of no other expression. -/
theorem expr_inverts_print : Function.Injective Expr.toValue ∧
    ∃ rules, rules? = some rules ∧ ∀ (tree : Expr) (rest : Text),
      rest.head?.any (fun symbol => symbol.isDigit || isSign symbol || isFactor symbol) = false →
      ((Grammar.rule "expr".toList).parse rules (tree.print ++ rest)).outcome =
        .matched tree.toValue ⟨tree.print ++ rest, tree.print.byteSize⟩ := by
  obtain ⟨tokens, hrules⟩ := exists_tokens
  refine ⟨Expr.toValue_injective, tokens.rules, hrules, fun tree rest hrest => ?_⟩
  obtain ⟨⟨hdigit, hsign⟩, hfactor⟩ :
      (Free Char.isDigit rest ∧ Free isSign rest) ∧ Free isFactor rest := by
    cases rest <;> simp_all [Free]
  have hdone : Continues tokens.rules "term" tokens.signs tree.toValue rest tree.toValue rest :=
    .done tokens.readsSigns hsign
  exact Derives.parse_matched ((Derived.all tree).expr hdigit hfactor hdone) symbolic

theorem expr_inverts_print_closing : ∃ rules, rules? = some rules ∧
    ((Grammar.rule "expr".toList).parse rules "8-4-2*(3+4))".toList).outcome =
      .matched (.node ['-'] (.node ['-'] (.int 8) (.int 4))
        (.node ['*'] (.int 2) (.node ['+'] (.int 3) (.int 4)))) ⟨"8-4-2*(3+4))".toList, 11⟩ := by
  obtain ⟨-, rules, hrules, hread⟩ := expr_inverts_print
  let product : Expr :=
    .operation .times (.number 2) (.operation .plus (.number 3) (.number 4))
  let tree : Expr := .operation .minus (.operation .minus (.number 8) (.number 4)) product
  have hprint : tree.print = "8-4-2*(3+4)".toList := by decide
  have h := hread tree [')'] (by decide)
  rw [hprint] at h
  exact ⟨rules, hrules, h⟩

end Calculator

end Descent
