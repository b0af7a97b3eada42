import Mathlib.Data.List.Forall2
import Descent.Parser.Chain
import Descent.Parser.Primitive
import Descent.Parser.Sequence
import Descent.Parser.Transform
import Descent.Proofs.Cursor

/-!
# Runs side by side

A `Likeness` says which cursors, failures and events of two runs are alike.
One parser refines another when, from cursors that are alike, every run of the
first that ends is like the run of the second; a run that does not end refines
every other. Every combinator keeps refinement: refining parts make refining
wholes. No combinator is opened outside this module to compare two runs.
-/

namespace Descent

/-- What counts as alike in two runs. Cursors that are alike leave the same text to read. -/
structure Likeness where
  cursor : Cursor → Cursor → Prop
  failure : Failure → Failure → Prop
  event : Event → Event → Prop
  remainder_eq : cursor c d → c.remainder = d.remainder
  skipBytes : cursor c d → text <+: c.remainder →
    cursor (c.skipBytes (Text.byteSize text)) (d.skipBytes (Text.byteSize text))
  new : cursor c d → ∀ reason : Nat → Reason,
    failure (.new c (reason c.index)) (.new d (reason d.index))
  composite : cursor c d → ∀ reason : Nat → Reason,
    failure (.composite c (reason c.index)) (.composite d (reason d.index))
  anchored : failure x y → cursor c d → failure (x.anchored c) (y.anchored d)
  alternativeFailed : failure x y → ∀ number,
    event (.alternativeFailed number x) (.alternativeFailed number y)
  belowMinimum : cursor c d → ∀ found least,
    event (.belowMinimum c.index found least) (.belowMinimum d.index found least)
  danglingSeparator : cursor c d →
    event (.danglingSeparator c.index) (.danglingSeparator d.index)
  danglingOperator : cursor c d → event (.danglingOperator c.index) (.danglingOperator d.index)

namespace Likeness

def flip (like : Likeness) : Likeness where
  cursor c d := like.cursor d c
  failure x y := like.failure y x
  event x y := like.event y x
  remainder_eq h := (like.remainder_eq h).symm
  skipBytes h hstarts := like.skipBytes h ((like.remainder_eq h).symm ▸ hstarts)
  new h reason := like.new h reason
  composite h reason := like.composite h reason
  anchored hfailure hcursor := like.anchored hfailure hcursor
  alternativeFailed h number := like.alternativeFailed h number
  belowMinimum h found least := like.belowMinimum h found least
  danglingSeparator h := like.danglingSeparator h
  danglingOperator h := like.danglingOperator h

def same (kind : Cursor.Kind) : Likeness where
  cursor c d := c = d ∧ kind.holds c
  failure := Eq
  event := Eq
  remainder_eq h := by rw [h.1]
  skipBytes h hstarts := ⟨by rw [h.1], kind.skipBytes h.2 hstarts⟩
  new h reason := by rw [h.1]
  composite h reason := by rw [h.1]
  anchored hfailure hcursor := by rw [hfailure, hcursor.1]
  alternativeFailed h number := by rw [h]
  belowMinimum h found least := by rw [h.1]
  danglingSeparator h := by rw [h.1]
  danglingOperator h := by rw [h.1]

end Likeness

/-- Runs that are alike, unless the first does not end. -/
inductive Run.Refines (like : Likeness) (value : α → β → Prop) : Run α → Run β → Prop
  | unfinished : Refines like value ⟨trace, .unfinished⟩ run
  | matched : List.Forall₂ like.event trace trace' → value v w → like.cursor c d →
      Refines like value ⟨trace, .matched v c⟩ ⟨trace', .matched w d⟩
  | failed : List.Forall₂ like.event trace trace' → like.failure x y →
      Refines like value ⟨trace, .failed x⟩ ⟨trace', .failed y⟩

theorem Run.Refines.after {like : Likeness} {value : α → β → Prop} {run : Run α} {run' : Run β}
    (h : run.Refines like value run') (hevents : List.Forall₂ like.event trace trace') :
    (run.after trace).Refines like value (run'.after trace') := by
  cases h with
  | unfinished => exact .unfinished
  | matched hlater hvalue hcursor => exact .matched (List.rel_append hevents hlater) hvalue hcursor
  | failed hlater hfailure => exact .failed (List.rel_append hevents hlater) hfailure

def Parser.Refines (like : Likeness) (value : α → β → Prop) (parser : Parser α)
    (parser' : Parser β) : Prop :=
  ∀ ⦃c d⦄, like.cursor c d → (parser c).Refines like value (parser' d)

open scoped Relator

namespace Parser.Refines

variable {α β γ δ : Type} {like : Likeness} {value : α → β → Prop} {other : γ → δ → Prop}
  {parser : Parser α} {parser' : Parser β}

-- ---------------------------------------------------------------------------
-- Steps
-- ---------------------------------------------------------------------------

theorem pure (h : value v w) : Refines like value (Pure.pure v) (Pure.pure w) :=
  fun _ _ hcursor => .matched .nil h hcursor

theorem bind {next : α → Parser γ} {next' : β → Parser δ} (h : Refines like value parser parser')
    (hnext : ∀ v w, value v w → Refines like other (next v) (next' w)) :
    Refines like other (parser >>= next) (parser' >>= next') := by
  intro c d hcursor
  show (Parser.bind parser next c).Refines like other (Parser.bind parser' next' d)
  have hrun := h hcursor
  unfold Parser.bind
  revert hrun
  generalize parser c = run, parser' d = run'
  intro hrun
  cases hrun with
  | unfinished => exact .unfinished
  | matched hevents hvalue hcursor => exact (hnext _ _ hvalue hcursor).after hevents
  | failed hevents hfailure => exact .failed hevents hfailure

theorem map {f : α → γ} {g : β → δ} (h : Refines like value parser parser')
    (hf : ∀ v w, value v w → other (f v) (g w)) :
    Refines like other (f <$> parser) (g <$> parser') :=
  h.bind fun v w hvalue => pure (hf v w hvalue)

theorem here : Refines like like.cursor Parser.here Parser.here :=
  fun _ _ hcursor => .matched .nil hcursor hcursor

theorem moveTo (h : like.cursor target target') :
    Refines like Eq (Parser.moveTo target) (Parser.moveTo target') :=
  fun _ _ _ => .matched .nil rfl h

theorem emit (h : like.event event event') :
    Refines like Eq (Parser.emit event) (Parser.emit event') :=
  fun _ _ hcursor => .matched (.cons h .nil) rfl hcursor

theorem fail (h : like.failure x y) : Refines like value (Parser.fail x) (Parser.fail y) :=
  fun _ _ _ => .failed .nil h

theorem unfinished : Refines like value Parser.unfinished parser' := fun _ _ _ => .unfinished

theorem onFailure {handler : Failure → Parser α} {handler' : Failure → Parser β}
    (h : Refines like value parser parser')
    (hhandler : ∀ x y, like.failure x y → Refines like value (handler x) (handler' y)) :
    Refines like value (parser.onFailure handler) (parser'.onFailure handler') := by
  intro c d hcursor
  have hrun := h hcursor
  unfold Parser.onFailure
  revert hrun
  generalize parser c = run, parser' d = run'
  intro hrun
  cases hrun with
  | unfinished => exact .unfinished
  | matched hevents hvalue hcursor => exact .matched hevents hvalue hcursor
  | failed hevents hfailure => exact (hhandler _ _ hfailure hcursor).after hevents

theorem anchored (h : Refines like value parser parser') :
    Refines like value parser.anchored parser'.anchored :=
  here.bind fun _ _ hentry => h.onFailure fun _ _ hfailure => fail (like.anchored hfailure hentry)

-- ---------------------------------------------------------------------------
-- Combinators
-- ---------------------------------------------------------------------------

theorem each {parsers : List (Parser α)} {parsers' : List (Parser β)}
    (h : List.Forall₂ (Refines like value) parsers parsers') :
    Refines like (List.Forall₂ value) (Parser.each parsers) (Parser.each parsers') := by
  induction h with
  | nil => exact pure .nil
  | cons hfirst _ ih =>
    exact hfirst.bind fun _ _ hvalue => ih.bind fun _ _ hvalues => pure (.cons hvalue hvalues)

theorem sequence {parsers : List (Parser α)} {parsers' : List (Parser β)}
    (h : List.Forall₂ (Refines like value) parsers parsers') :
    Refines like (List.Forall₂ value) (Parser.sequence parsers) (Parser.sequence parsers') :=
  (each h).anchored

theorem between {opening closing : Parser γ} {opening' closing' : Parser δ}
    (hopening : Refines like other opening opening')
    (hclosing : Refines like other closing closing') (hinner : Refines like value parser parser') :
    Refines like value (opening.between closing parser) (opening'.between closing' parser') := by
  refine anchored (hopening.bind fun _ _ _ => hinner.bind fun _ _ hvalue => ?_)
  exact hclosing.bind fun _ _ _ => pure hvalue

theorem firstOf {parsers : List (Parser α)} {parsers' : List (Parser β)}
    (h : List.Forall₂ (Refines like value) parsers parsers') (number : Nat) :
    Refines like value (Parser.firstOf number parsers) (Parser.firstOf number parsers') := by
  induction h generalizing number with
  | nil => exact here.bind fun _ _ hentry => fail (like.composite hentry .noAlternative)
  | cons hfirst _ ih =>
    refine hfirst.onFailure fun _ _ hfailure => ?_
    exact (emit (like.alternativeFailed hfailure number)).bind fun _ _ _ => ih (number + 1)

theorem choose {parsers : List (Parser α)} {parsers' : List (Parser β)}
    (h : List.Forall₂ (Refines like value) parsers parsers') :
    Refines like value (Parser.choose parsers) (Parser.choose parsers') := firstOf h 0

theorem optional (h : Refines like value parser parser') :
    Refines like (Option.Rel value) parser.optional parser'.optional :=
  (h.map fun _ _ => Option.Rel.some).onFailure fun _ _ _ => pure .none

theorem star (h : Refines like value parser parser') (hlimit : limit ≤ limit') :
    Refines like (List.Forall₂ value) (Parser.star limit parser) (Parser.star limit' parser') := by
  induction limit generalizing limit' with
  | zero => exact unfinished
  | succ limit ih =>
    obtain ⟨limit', rfl⟩ := Nat.exists_eq_add_one_of_ne_zero (Nat.ne_zero_of_lt hlimit)
    refine h.optional.bind fun _ _ hfound => ?_
    cases hfound with
    | none => exact pure .nil
    | some hvalue =>
      exact (ih (Nat.le_of_succ_le_succ hlimit)).bind fun _ _ hvalues => pure (.cons hvalue hvalues)

theorem many (hstar : Refines like (List.Forall₂ value) (Parser.star limit parser)
    (Parser.star limit' parser')) (least : Nat) :
    Refines like (List.Forall₂ value) (Parser.many limit least parser)
      (Parser.many limit' least parser') := by
  refine here.bind fun _ _ hentry => hstar.bind fun values values' hvalues => ?_
  rw [hvalues.length_eq]
  split
  · refine (emit (like.belowMinimum hentry _ least)).bind fun _ _ _ => ?_
    exact fail (like.composite hentry fun index => .tooFew index least _)
  · exact pure hvalues

theorem linked {link : Parser γ} {link' : Parser δ} {dangling : Nat → Event}
    (hdangling : ∀ c d, like.cursor c d → like.event (dangling c.index) (dangling d.index))
    (hlink : Refines like other link link') (hitem : Refines like value parser parser') :
    Refines like (fun p q => other p.1 q.1 ∧ value p.2 q.2) (Parser.linked dangling link parser)
      (Parser.linked dangling link' parser') := by
  refine here.bind fun _ _ hbefore => hlink.bind fun _ _ hconnection => ?_
  have hvalue := hitem.onFailure fun _ _ hfailure =>
    (emit (hdangling _ _ hbefore)).bind fun _ _ _ => fail hfailure
  exact hvalue.bind fun _ _ hvalue => pure ⟨hconnection, hvalue⟩

theorem chain {link : Parser γ} {link' : Parser δ} {dangling : Nat → Event}
    (reason : Nat → Reason) (hitem : Refines like value parser parser')
    (hstar : Refines like (List.Forall₂ fun p q => other p.1 q.1 ∧ value p.2 q.2)
      (Parser.star limit (Parser.linked dangling link parser))
      (Parser.star limit' (Parser.linked dangling link' parser'))) :
    Refines like
      (fun p q => value p.1 q.1 ∧ List.Forall₂ (fun p q => other p.1 q.1 ∧ value p.2 q.2) p.2 q.2)
      (Parser.chain limit reason dangling parser link)
      (Parser.chain limit' reason dangling parser' link') := by
  refine here.bind fun _ _ hentry => ?_
  have hfirst := hitem.onFailure fun _ _ _ => fail (like.composite hentry reason)
  exact hfirst.bind fun _ _ hvalue => hstar.bind fun _ _ hpairs => pure ⟨hvalue, hpairs⟩

theorem interpose {separator : Parser α} {separator' : Parser β}
    (hitem : Refines like value parser parser')
    (hstar : Refines like (List.Forall₂ fun p q => value p.1 q.1 ∧ value p.2 q.2)
      (Parser.star limit (Parser.linked .danglingSeparator separator parser))
      (Parser.star limit' (Parser.linked .danglingSeparator separator' parser'))) :
    Refines like (List.Forall₂ value) (Parser.interpose limit parser separator)
      (Parser.interpose limit' parser' separator') := by
  refine (chain .noItem hitem hstar).bind ?_
  rintro ⟨first, pairs⟩ ⟨first', pairs'⟩ ⟨hfirst, hpairs⟩
  refine pure (.cons hfirst ?_)
  refine List.rel_flatMap hpairs ?_
  rintro ⟨_, _⟩ ⟨_, _⟩ ⟨hseparator, hitem⟩
  exact .cons hseparator (.cons hitem .nil)

theorem chainl {operator : Parser (α → α → α)} {operator' : Parser (β → β → β)}
    (hoperand : Refines like value parser parser')
    (hstar : Refines like
      (List.Forall₂ fun p q => (value ⇒ value ⇒ value) p.1 q.1 ∧ value p.2 q.2)
      (Parser.star limit (Parser.linked .danglingOperator operator parser))
      (Parser.star limit' (Parser.linked .danglingOperator operator' parser'))) :
    Refines like value (Parser.chainl limit parser operator)
      (Parser.chainl limit' parser' operator') := by
  refine (chain .noOperand hoperand hstar).bind ?_
  rintro ⟨first, pairs⟩ ⟨first', pairs'⟩ ⟨hfirst, hpairs⟩
  refine pure (List.rel_foldl ?_ hfirst hpairs)
  rintro _ _ hjoined ⟨_, _⟩ ⟨_, _⟩ ⟨hcombine, hright⟩
  exact hcombine hjoined hright

theorem filter {test : α → Bool} {test' : β → Bool} (h : Refines like value parser parser')
    (htest : ∀ v w, value v w → test v = test' w) (message : Text) :
    Refines like value (parser.filter test message) (parser'.filter test' message) := by
  refine here.bind fun _ _ hentry => h.bind fun v w hvalue => ?_
  rw [htest v w hvalue]
  split
  · exact pure hvalue
  · exact fail (like.composite hentry fun _ => .said message)

theorem indexed {spanned : α × Span → β × Span → Prop} (h : Refines like value parser parser')
    (hspan : ∀ c d c' d' v w, like.cursor c d → like.cursor c' d' → value v w →
      spanned (v, ⟨c.source, c.index, c'.index⟩) (w, ⟨d.source, d.index, d'.index⟩)) :
    Refines like spanned parser.indexed parser'.indexed := by
  refine here.bind fun c d hentry => h.bind fun v w hvalue => here.bind fun c' d' hrest => ?_
  exact pure (hspan c d c' d' v w hentry hrest hvalue)

-- ---------------------------------------------------------------------------
-- Parsers without parts
-- ---------------------------------------------------------------------------

theorem character (expected : Char) :
    Refines like Eq (Parser.character expected) (Parser.character expected) := by
  refine here.bind fun c d hentry => ?_
  have hremainder := like.remainder_eq hentry
  have hcurrent : c.current = d.current := congrArg List.head? hremainder
  rw [hcurrent]
  split
  · refine Refines.bind (moveTo ?_) fun _ _ _ => pure rfl
    have := like.skipBytes hentry (List.take_prefix 1 c.remainder)
    rwa [Cursor.advance, Cursor.advance, ← hremainder]
  · exact fail (like.new hentry fun index => .character expected d.current index)

theorem literal (expected : Text) :
    Refines like Eq (Parser.literal expected) (Parser.literal expected) := by
  refine here.bind fun c d hentry => ?_
  rw [← like.remainder_eq hentry]
  split
  · rename_i hstarts
    refine Refines.bind (moveTo ?_) fun _ _ _ => pure rfl
    exact like.skipBytes hentry (List.isPrefixOf_iff_prefix.mp hstarts)
  · exact fail (like.new hentry fun index => .literal expected _ index)

theorem pattern (searched : Pattern) :
    Refines like Eq (Parser.pattern searched) (Parser.pattern searched) := by
  refine here.bind fun c d hentry => ?_
  rw [← like.remainder_eq hentry]
  cases searched.matchStart? c.remainder with
  | none => exact fail (like.new hentry fun index => .pattern searched.shown index)
  | some found =>
    refine Refines.bind (moveTo ?_) fun _ _ _ => pure rfl
    exact like.skipBytes hentry (List.take_prefix _ _)

end Parser.Refines

end Descent
