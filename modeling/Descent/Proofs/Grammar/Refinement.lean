import Descent.Proofs.Grammar.Parts
import Descent.Proofs.Parser.Refinement

/-!
# Runs of grammars side by side

`Grammar.Likeness` adds to a likeness of runs which values are alike. A
grammar whose own functions keep it (`Admits`) refines what it is made into
when its parts refine what they are made into (`assemble_refines`), and a run
of some depth refines every deeper run (`run_refines`).
-/

namespace Descent.Grammar

/-- What counts as alike in two runs of a grammar, the values they yield included. -/
structure Likeness extends Descent.Likeness where
  value : Value → Value → Prop
  char (symbol : Char) : value (.char symbol) (.char symbol)
  text (content : Text) : value (.text content) (.text content)
  captures (found : Captures) : value (.captures found) (.captures found)
  none : value .none .none
  some : value v w → value (.some v) (.some w)
  list : List.Forall₂ value values values' → value (.list values) (.list values')
  tuple : List.Forall₂ value values values' → value (.tuple values) (.tuple values')
  spanned : value v w → cursor c d → cursor c' d' →
    value (.spanned v ⟨c.source, c.index, c'.index⟩) (.spanned w ⟨d.source, d.index, d'.index⟩)

namespace Likeness

def flip (like : Likeness) : Likeness where
  toLikeness := like.toLikeness.flip
  value v w := like.value w v
  char := like.char
  text := like.text
  captures := like.captures
  none := like.none
  some h := like.some h
  list h := like.list (List.Forall₂.flip h)
  tuple h := like.tuple (List.Forall₂.flip h)
  spanned hvalue hentry hrest := like.spanned hvalue hentry hrest

def same (kind : Cursor.Kind) : Likeness where
  toLikeness := .same kind
  value := Eq
  char _ := rfl
  text _ := rfl
  captures _ := rfl
  none := rfl
  some h := by rw [h]
  list h := by
    rw [List.forall₂_eq_eq_eq] at h
    rw [h]
  tuple h := by
    rw [List.forall₂_eq_eq_eq] at h
    rw [h]
  spanned hvalue hentry hrest := by rw [hvalue, hentry.1, hrest.1]

inductive Results (like : Likeness) :
    Except Failure (Value × Cursor) → Except Failure (Value × Cursor) → Prop
  | ok : like.value v w → like.cursor c d → Results like (.ok (v, c)) (.ok (w, d))
  | error : like.failure x y → Results like (.error x) (.error y)

/-- The functions of a grammar give like results for like arguments. -/
def Admits (like : Likeness) : Grammar → Prop
  | .leaf function => ∀ c d, like.cursor c d → like.Results (function c) (function d)
  | .map _ mapping => ∀ v w, like.value v w → like.value (mapping v) (mapping w)
  | .mapState _ revision => ∀ entry entry' v w rest rest', like.cursor entry entry' →
      like.value v w → like.cursor rest rest' →
      like.Results (revision entry v rest) (revision entry' w rest')
  | .filter _ test _ => ∀ v w, like.value v w → test v = test w
  | .chainl _ _ fold => ∀ operator operator' left left' right right',
      like.value operator operator' → like.value left left' → like.value right right' →
      like.value (fold operator left right) (fold operator' left' right')
  | _ => True

theorem Results.flip {like : Likeness} (h : like.Results result result') : like.flip.Results result' result := by
  cases h with
  | ok hvalue hcursor => exact .ok hvalue hcursor
  | error hfailure => exact .error hfailure

theorem Admits.flip {like : Likeness} {grammar : Grammar} (h : like.Admits grammar) : like.flip.Admits grammar := by
  cases grammar with
  | leaf function => exact fun c d hcursor => (h d c hcursor).flip
  | map body mapping => exact fun v w hvalue => h w v hvalue
  | mapState body revision =>
    exact fun entry entry' v w rest rest' hentry hvalue hrest =>
      (h entry' entry w v rest' rest hentry hvalue hrest).flip
  | filter body test message => exact fun v w hvalue => (h w v hvalue).symm
  | chainl operand operator fold =>
    exact fun _ _ _ _ _ _ hoperator hleft hright => h _ _ _ _ _ _ hoperator hleft hright
  | _ => trivial

def Limits (like : Likeness) (limit limit' : Nat) : Prop :=
  ∀ {α β : Type} {value : α → β → Prop} {parser : Parser α} {parser' : Parser β},
    parser.Refines like.toLikeness value parser' →
    (Parser.star limit parser).Refines like.toLikeness (List.Forall₂ value)
      (Parser.star limit' parser')

theorem limits_of_le (like : Likeness) (h : limit ≤ limit') : like.Limits limit limit' :=
  fun hparser => hparser.star h

abbrev Refines (like : Likeness) (parser parser' : Parser Value) : Prop :=
  parser.Refines like.toLikeness like.value parser'

-- ---------------------------------------------------------------------------
-- Functions of a grammar
-- ---------------------------------------------------------------------------

theorem refines_leaf {like : Likeness} {leaf : Leaf}
    (h : ∀ c d, like.cursor c d → like.Results (leaf c) (leaf d)) :
    like.Refines leaf.parser leaf.parser := by
  refine Parser.Refines.here.bind fun c d hentry => ?_
  have hresults := h c d hentry
  revert hresults
  generalize leaf c = result, leaf d = result'
  rintro (⟨hvalue, hcursor⟩ | hfailure)
  · exact (Parser.Refines.moveTo hcursor).bind fun _ _ _ => .pure hvalue
  · exact .fail hfailure

theorem refines_mapState {like : Likeness} {parser parser' : Parser Value} {revision : Revision}
    (hparser : like.Refines parser parser')
    (h : ∀ entry entry' v w rest rest', like.cursor entry entry' → like.value v w →
      like.cursor rest rest' → like.Results (revision entry v rest) (revision entry' w rest')) :
    like.Refines (parser.mapState revision) (parser'.mapState revision) := by
  refine Parser.Refines.here.bind fun entry entry' hentry => hparser.bind fun v w hvalue =>
    Parser.Refines.here.bind fun rest rest' hrest => ?_
  have hresults := h entry entry' v w rest rest' hentry hvalue hrest
  revert hresults
  generalize revision entry v rest = result, revision entry' w rest' = result'
  rintro (⟨hvalue, hcursor⟩ | hfailure)
  · exact (Parser.Refines.moveTo hcursor).bind fun _ _ _ => .pure hvalue
  · exact .fail hfailure

end Likeness

variable {like : Likeness} {rules : Rules} {limit limit' : Nat}
  {part part' : Grammar → Parser Value}

theorem forall₂_map_part {grammars : List Grammar}
    (h : ∀ grammar ∈ grammars, like.Refines (part grammar) (part' grammar)) :
    List.Forall₂ (Parser.Refines like.toLikeness like.value) (grammars.map part)
      (grammars.map part') := by
  rw [List.forall₂_map_left_iff, List.forall₂_map_right_iff, List.forall₂_same]
  exact h

open scoped Relator in
theorem assemble_refines {grammar : Grammar} (hlimits : like.Limits limit limit')
    (hadmits : like.Admits grammar)
    (hparts : ∀ inner ∈ grammar.calls rules, like.Refines (part inner) (part' inner)) :
    like.Refines (assemble rules limit part grammar) (assemble rules limit' part' grammar) := by
  cases grammar with
  | character expected => exact (Parser.Refines.character expected).map fun _ _ h => h ▸ like.char _
  | literal expected => exact (Parser.Refines.literal expected).map fun _ _ h => h ▸ like.text _
  | pattern searched =>
    exact (Parser.Refines.pattern searched).map fun _ _ h => h ▸ like.captures _
  | leaf function => exact Likeness.refines_leaf hadmits
  | tuple parts => exact (Parser.Refines.sequence (forall₂_map_part hparts)).map fun _ _ => like.tuple
  | list parts => exact (Parser.Refines.sequence (forall₂_map_part hparts)).map fun _ _ => like.list
  | choose alternatives => exact .choose (forall₂_map_part hparts)
  | optional body =>
    refine (hparts body (by simp)).optional.map fun _ _ h => ?_
    cases h with
    | none => exact like.none
    | some h => exact like.some h
  | many body least =>
    exact (Parser.Refines.many (hlimits (hparts body (by simp))) least).map
      fun _ _ => like.list
  | interpose item separator =>
    have hitem := hparts item (by simp)
    have hseparator := hparts separator (by simp)
    have hpair := Parser.Refines.linked (fun _ _ => like.danglingSeparator) hseparator hitem
    exact (Parser.Refines.interpose hitem (hlimits hpair)).map fun _ _ => like.list
  | between opening closing inner =>
    exact .between (hparts opening (by simp)) (hparts closing (by simp))
      (hparts inner (by simp))
  | chainl operand operator fold =>
    have hoperand := hparts operand (by simp)
    have hoperator : (fold <$> part operator).Refines like.toLikeness
        (like.value ⇒ like.value ⇒ like.value) (fold <$> part' operator) :=
      (hparts operator (by simp)).map fun _ _ hvalue _ _ hleft _ _ hright =>
        hadmits _ _ _ _ _ _ hvalue hleft hright
    have hpair := Parser.Refines.linked (fun _ _ => like.danglingOperator) hoperator hoperand
    exact .chainl hoperand (hlimits hpair)
  | map body mapping => exact (hparts body (by simp)).map hadmits
  | mapState body revision =>
    exact Likeness.refines_mapState (hparts body (by simp)) hadmits
  | filter body test message =>
    exact (hparts body (by simp)).filter hadmits message
  | indexed body =>
    let spanned (p q : Value × Span) : Prop := like.value (.spanned p.1 p.2) (.spanned q.1 q.2)
    have hspanned : ((part body).indexed).Refines like.toLikeness spanned (part' body).indexed :=
      (hparts body (by simp)).indexed fun _ _ _ _ _ _ hentry hrest hvalue =>
        like.spanned hvalue hentry hrest
    exact hspanned.map fun _ _ h => h
  | rule name =>
    simp only [assemble]
    cases hbody : rules.lookup name with
    | none => exact .unfinished
    | some body => exact hparts body (by simp [hbody])

/-- A run refines every run that is at least as deep. -/
theorem run_refines {grammar : Grammar} (hadmits : grammar.Every rules like.Admits)
    (hdepth : depth ≤ depth') :
    like.Refines (run rules depth grammar) (run rules depth' grammar) := by
  induction depth generalizing grammar depth' with
  | zero => exact .unfinished
  | succ depth ih =>
    obtain ⟨depth', rfl⟩ := Nat.exists_eq_add_one_of_ne_zero (Nat.ne_zero_of_lt hdepth)
    have hdepth := Nat.le_of_succ_le_succ hdepth
    rw [run_succ, run_succ]
    exact assemble_refines (like.limits_of_le hdepth) hadmits.self
      fun inner hinner => ih (hadmits.call hinner) hdepth

end Descent.Grammar
