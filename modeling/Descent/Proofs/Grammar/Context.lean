import Mathlib
import Descent.Proofs.Grammar.Depth
import Descent.Value.Mapping
import Descent.Value.Test

/-!
# What stands before a parser does not matter

Put a text in front of another, and everything a parser does on the second is
moved behind the first and otherwise the same (`parser_behind`): `behind` moves
cursors, spans and values. The functions of the grammar must not look at where
spans stand, which is to say that they go along with such moves (`Blind`); all
functions of the library do (`tests_behind`, `mappings_behind`, `folds_behind`).

It is the likeness `behind` of two runs, read from either side.
-/

namespace Descent

-- ---------------------------------------------------------------------------
-- Texts and cursors
-- ---------------------------------------------------------------------------

theorem Text.dropBytes?_add (front text : Text) (count : Nat) :
    dropBytes? (front ++ text) (byteSize front + count) = dropBytes? text count := by
  induction front with
  | nil => simp
  | cons symbol front ih =>
    obtain ⟨size, hsize⟩ := Nat.exists_eq_add_one_of_ne_zero symbol.utf8Size_pos.ne'
    have hcount : byteSize (symbol :: front) + count = size + byteSize front + count + 1 := by
      rw [byteSize_cons, hsize]
      omega
    have hfits : symbol.utf8Size ≤ size + byteSize front + count + 1 := by omega
    have hrest : size + byteSize front + count + 1 - symbol.utf8Size = byteSize front + count := by
      omega
    rw [hcount, List.cons_append, dropBytes?, if_pos hfits, hrest, ih]

/-- The cursor when a text is put in front of its own. -/
def Cursor.behind (front : Text) (cursor : Cursor) : Cursor where
  source := front ++ cursor.source
  index := front.byteSize + cursor.index

def Span.behind (front : Text) (span : Span) : Span where
  source := front ++ span.source
  start := front.byteSize + span.start
  stop := front.byteSize + span.stop

theorem Cursor.remainder_behind (front : Text) (cursor : Cursor) :
    (cursor.behind front).remainder = cursor.remainder := by
  simp only [remainder, behind, Text.dropBytes?_add]

theorem Cursor.skipBytes_behind (front : Text) (cursor : Cursor) (count : Nat) :
    (cursor.behind front).skipBytes count = (cursor.skipBytes count).behind front := by
  simp only [skipBytes, behind, Text.byteSize_append, Cursor.mk.injEq, true_and]
  omega

theorem Cursor.OnSymbol.behind {cursor : Cursor} (h : cursor.OnSymbol) (front : Text) :
    (cursor.behind front).OnSymbol := by
  obtain ⟨before, after, hsource, hindex⟩ := h
  refine ⟨front ++ before, after, ?_, ?_⟩
  · simp only [Cursor.behind, hsource, List.append_assoc]
  · simp only [Cursor.behind, hindex, Text.byteSize_append]

theorem Span.slice?_behind (front : Text) (span : Span) :
    (span.behind front).slice? = span.slice? := by
  simp only [slice?, behind, Text.slice?, Text.dropBytes?_add, Nat.add_le_add_iff_left,
    Nat.add_sub_add_left]

-- ---------------------------------------------------------------------------
-- Values
-- ---------------------------------------------------------------------------

namespace Value

mutual
def behind (front : Text) : Value → Value
  | .char symbol => .char symbol
  | .text content => .text content
  | .int number => .int number
  | .none => .none
  | .some value => .some (value.behind front)
  | .list values => .list (allBehind front values)
  | .tuple values => .tuple (allBehind front values)
  | .captures found => .captures found
  | .spanned value span => .spanned (value.behind front) (span.behind front)
  | .tagged tag value => .tagged tag (value.behind front)
  | .node label left right => .node label (left.behind front) (right.behind front)

def allBehind (front : Text) : List Value → List Value
  | [] => []
  | value :: rest => value.behind front :: allBehind front rest
end

theorem allBehind_eq (front : Text) (values : List Value) :
    allBehind front values = values.map (behind front) := by
  induction values with
  | nil => rfl
  | cons value rest ih => rw [allBehind, ih, List.map_cons]

mutual
@[simp] theorem toText_behind (front : Text) : ∀ value : Value,
    (value.behind front).toText = value.toText
  | .char _ | .text _ | .int _ | .none | .captures _ => rfl
  | .some value | .spanned value _ | .tagged _ value => by
    simp only [behind, toText, toText_behind front value]
  | .list values | .tuple values => by
    simp only [behind, toText, textOfAll_behind front values]
  | .node _ left right => by
    simp only [behind, toText, toText_behind front left, toText_behind front right]

theorem textOfAll_behind (front : Text) : ∀ values : List Value,
    textOfAll (allBehind front values) = textOfAll values
  | [] => rfl
  | value :: rest => by
    simp only [allBehind, textOfAll, toText_behind front value, textOfAll_behind front rest]
end

@[simp] theorem toInt_behind (front : Text) (value : Value) :
    (value.behind front).toInt = value.toInt := by
  have htext := toText_behind front value
  cases value with
  | int number => rfl
  | _ => exact congrArg (fun text => (numberOf? text).getD 0) htext

@[simp] theorem count_behind (front : Text) (value : Value) :
    (value.behind front).count = value.count := by
  cases value <;> simp [behind, count, allBehind_eq]

theorem tests_behind (text : Text) (texts : List Text) (least : Nat) :
    ∀ test ∈ [textIs text, textIsOneOf texts, countAtLeast least, lengthAtLeast least, isEven,
        allLetters, allDigits],
      ∀ front value, test (value.behind front) = test value := by
  simp [textIs, textIsOneOf, countAtLeast, lengthAtLeast, isEven, allLetters, allDigits]

theorem getD_behind (front : Text) (values : List Value) (place : Nat) :
    (allBehind front values).getD place .none = (values.getD place .none).behind front := by
  rw [allBehind_eq, List.getD_eq_getElem?_getD, List.getD_eq_getElem?_getD, List.getElem?_map]
  cases values[place]? <;> rfl

theorem everyOther_behind (front : Text) : ∀ values : List Value,
    everyOther (allBehind front values) = allBehind front (everyOther values)
  | [] | [_] => rfl
  | value :: _ :: rest => by
    simp only [allBehind, everyOther, everyOther_behind front rest]

theorem ofCapture_behind (front : Text) (found : Option Capture) :
    (ofCapture found).behind front = ofCapture found := by
  cases found <;> rfl

theorem mappings_behind (place number : Nat) (name : Text) :
    ∀ mapping ∈ [element place, group number, named name, evens],
      ∀ front value, mapping (value.behind front) = (mapping value).behind front := by
  simp only [List.forall_mem_cons]
  refine ⟨fun front value => ?_, fun front value => ?_, fun front value => ?_,
    fun front value => ?_, by simp⟩
  · cases value <;> first | rfl | exact getD_behind front _ place
  · cases value <;> first | rfl | exact (ofCapture_behind front _).symm
  · cases value <;> first | rfl | exact (ofCapture_behind front _).symm
  · cases value <;> first | rfl | exact congrArg Value.list (everyOther_behind front _)

theorem folds_behind :
    ∀ fold ∈ [Fold.node, Fold.flip, Fold.arithmetic, Fold.concat, Fold.left, Fold.right,
        Fold.append],
      ∀ front link left right, fold (link.behind front) (left.behind front) (right.behind front) =
        (fold link left right).behind front := by
  simp only [List.forall_mem_cons]
  refine ⟨?_, ?_, ?_, ?_, ?_, ?_, ?_, by simp⟩ <;> intro front link left right
  · simp only [Fold.node, behind, toText_behind]
  · simp only [Fold.flip, behind, toText_behind]
  · simp only [Fold.arithmetic, behind, toInt_behind, toText_behind]
  · simp only [Fold.concat, behind, toText_behind]
  · rfl
  · rfl
  · cases left <;> simp [Fold.append, behind, allBehind_eq]

end Value

-- ---------------------------------------------------------------------------
-- Grammars
-- ---------------------------------------------------------------------------

/-- The first outcome is the second with a text put in front: the value and the cursor are moved
behind it, and so is the cursor of a failure, whose kind stays. -/
inductive Outcome.Behind (front : Text) : Outcome Value → Outcome Value → Prop
  | matched : Behind front (.matched (value.behind front) (rest.behind front)) (.matched value rest)
  | failed {failure failure' : Failure} : failure.kind = failure'.kind →
      failure.cursor = failure'.cursor.behind front →
      Behind front (.failed failure) (.failed failure')
  | unfinished : Behind front .unfinished .unfinished

namespace Grammar

/-- The functions of the grammar go along when a text is put in front, as they do if they do not
look at where spans stand. -/
def Blind : Grammar → Prop
  | .leaf _ | .mapState _ _ => False
  | .map _ mapping => ∀ front value, mapping (value.behind front) = (mapping value).behind front
  | .filter _ test _ => ∀ front value, test (value.behind front) = test value
  | .chainl _ _ fold => ∀ front link left right,
      fold (link.behind front) (left.behind front) (right.behind front) =
        (fold link left right).behind front
  | _ => True

theorem Blind.plain {grammar : Grammar} (h : grammar.Blind) : grammar.Plain := by
  cases grammar <;> trivial

theorem eq_map_behind {front : Text}
    (h : List.Forall₂ (fun v w => v = Value.behind front w) values values') :
    values = values'.map (Value.behind front) := by
  rwa [← List.forall₂_eq_eq_eq, List.forall₂_map_right_iff]

/-- The first run has a text put in front. Events are not compared. -/
def Likeness.behind (front : Text) : Likeness where
  cursor c d := c = d.behind front
  failure x y := x.kind = y.kind ∧ x.cursor = y.cursor.behind front
  event _ _ := True
  remainder_eq h := by rw [h, Cursor.remainder_behind]
  skipBytes h _ := by rw [h, Cursor.skipBytes_behind]
  new h _ := ⟨rfl, h⟩
  composite h _ := ⟨rfl, h⟩
  anchored _ h := ⟨rfl, h⟩
  alternativeFailed _ _ := trivial
  belowMinimum _ _ _ := trivial
  danglingSeparator _ := trivial
  danglingOperator _ := trivial
  value v w := v = w.behind front
  char _ := by rw [Value.behind]
  text _ := by rw [Value.behind]
  captures _ := by rw [Value.behind]
  none := rfl
  some h := by rw [h, Value.behind]
  list h := by rw [eq_map_behind h, Value.behind, Value.allBehind_eq]
  tuple h := by rw [eq_map_behind h, Value.behind, Value.allBehind_eq]
  spanned hvalue hentry hrest := by
    rw [hvalue, hentry, hrest, Value.behind]
    rfl

theorem Blind.admits {grammar : Grammar} (h : grammar.Blind) (front : Text) :
    (Likeness.behind front).Admits grammar := by
  cases grammar with
  | leaf function => exact h.elim
  | mapState body revision => exact h.elim
  | map body mapping =>
    rintro _ value rfl
    exact h front value
  | filter body test message =>
    rintro _ value rfl
    exact h front value
  | chainl operand operator fold =>
    rintro _ link _ left _ right rfl rfl rfl
    exact h front link left right
  | _ => trivial

theorem outcome_behind {front : Text} {run run' : Run Value}
    (h : run.Refines (Likeness.behind front).toLikeness (Likeness.behind front).value run')
    (hends : run.outcome ≠ .unfinished) : Outcome.Behind front run.outcome run'.outcome := by
  cases h with
  | unfinished => exact absurd rfl hends
  | matched _ hvalue hcursor =>
    rw [hvalue, hcursor]
    exact .matched
  | failed _ hfailure => exact .failed hfailure.1 hfailure.2

/-- What stands before the place where a parser is entered makes no difference but to move what it
finds, and no span has another text for that. -/
theorem parser_behind {rules : Rules} {grammar : Grammar} (hblind : grammar.Every rules Blind)
    (front text : Text) (index : Nat) (hcursor : Cursor.OnSymbol ⟨text, index⟩) :
    Outcome.Behind front
        (grammar.parser rules ⟨front ++ text, front.byteSize + index⟩).outcome
        (grammar.parser rules ⟨text, index⟩).outcome ∧
      ∀ span : Span, (span.behind front).slice? = span.slice? := by
  refine ⟨?_, Span.slice?_behind front⟩
  have hstays : grammar.Every rules Stays := hblind.imp fun _ h => h.plain.stays
  have hadmits : grammar.Every rules (Likeness.behind front).Admits :=
    hblind.imp fun _ h => h.admits front
  have hrun := parser_refines hadmits hstays hcursor (rfl : _ = Cursor.behind front ⟨text, index⟩)
  have hrun' := parser_refines (hadmits.imp fun _ => Likeness.Admits.flip) hstays
    (hcursor.behind front) (rfl : _ = Cursor.behind front ⟨text, index⟩)
  -- each run refines the other, so they also end together
  by_cases hends : (grammar.parser rules ⟨front ++ text, front.byteSize + index⟩).outcome =
    .unfinished
  · by_cases hends' : (grammar.parser rules ⟨text, index⟩).outcome = .unfinished
    · rw [hends, hends']
      exact .unfinished
    · exact absurd hends (hrun'.ends hends')
  · exact outcome_behind hrun hends

def sum : Grammar := .chainl (.indexed (.literal ['1'])) (.character '+') Value.Fold.node

theorem sum_blind : sum.Every [] Blind := by
  intro part hpart
  have hmem : part = sum ∨ part = .indexed (.literal ['1']) ∨ part = .literal ['1'] ∨
      part = .character '+' := by
    simpa [allNodes, nodes_eq, parts, sum] using hpart.mem_allNodes
  obtain rfl | rfl | rfl | rfl := hmem
  · exact Value.folds_behind _ List.mem_cons_self
  all_goals trivial

theorem parser_behind_sum :
    (sum.parser [] ⟨['é', '1', '+', '1'], 2⟩).outcome =
      .matched
        (.node ['+'] (.spanned (.text ['1']) ⟨['é', '1', '+', '1'], 2, 3⟩)
          (.spanned (.text ['1']) ⟨['é', '1', '+', '1'], 4, 5⟩))
        ⟨['é', '1', '+', '1'], 5⟩ := by
  have hplain : (sum.parser [] ⟨['1', '+', '1'], 0⟩).outcome =
      .matched
        (.node ['+'] (.spanned (.text ['1']) ⟨['1', '+', '1'], 0, 1⟩)
          (.spanned (.text ['1']) ⟨['1', '+', '1'], 2, 3⟩))
        ⟨['1', '+', '1'], 3⟩ := by cbv
  have h := (parser_behind sum_blind ['é'] ['1', '+', '1'] 0 (Cursor.onSymbol_start _)).1
  rw [hplain] at h
  generalize hfront : (sum.parser [] ⟨['é'] ++ ['1', '+', '1'], Text.byteSize ['é'] + 0⟩).outcome =
    outcome at h
  cases h
  exact hfront

end Grammar

end Descent
