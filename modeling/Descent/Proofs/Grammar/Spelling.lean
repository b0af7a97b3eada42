import Mathlib
import Descent.Proofs.Grammar.Match
import Descent.Proofs.Position

/-!
# Values hold the text that was read

A grammar is `Spelled` when nothing in it drops, adds or moves text: it maps no
values, hides no delimiters, and joins operands in the order in which they
stand. The text of what it yields is then the text between the cursors of the
match (`toText_eq_slice`), whatever was attempted and given up on the way.

It is an invariant of matches: behind every part, the text of the values so far
is the text read so far. A chain that joins by several operators pairs them with
numbers, which are no text; `Numbered` says what its operators yield.
-/

namespace Descent

theorem Pattern.toText_captures {searched : Pattern}
    (h : searched.matchStart? text = some (found, length)) :
    (Value.captures found).toText = text.take length := by
  unfold matchStart? at h
  split at h
  · cases h
    simp [Value.toText, Captures.group?, Capture.of]
  · cases h

def Value.Fold.InOrder (fold : Fold) : Prop :=
  ∀ operator left right,
    (fold operator left right).toText = left.toText ++ operator.toText ++ right.toText

theorem Value.Fold.inOrder_node : node.InOrder := fun _ _ _ => by simp [node, toText]

theorem Value.Fold.inOrder_concat : concat.InOrder := fun _ _ _ => by simp [concat, toText]

namespace Grammar

def numbered (operators : List (Grammar × Value.Fold)) : List Grammar :=
  operators.zipIdx.map fun ((operator, _), number) =>
    operator.map fun value => .tuple [.int (.ofNat number), value]

/-- The grammar yields the text that it reads if those of a set do. -/
inductive Spells (rules : Rules) (set : Grammar → Prop) : Grammar → Prop
  | character : Spells rules set (.character expected)
  | literal : Spells rules set (.literal expected)
  | pattern : Spells rules set (.pattern searched)
  | tuple : (∀ part ∈ all, set part) → Spells rules set (.tuple all)
  | list : (∀ part ∈ all, set part) → Spells rules set (.list all)
  | choose : (∀ part ∈ all, set part) → Spells rules set (.choose all)
  | optional : set body → Spells rules set (.optional body)
  | many : set body → Spells rules set (.many body least)
  | interpose : set item → set separator → Spells rules set (.interpose item separator)
  | chainl : set operand → set operator → fold.InOrder →
      Spells rules set (.chainl operand operator fold)
  | chainlOf : set operand → (∀ operator ∈ operators, set operator.1 ∧ operator.2.InOrder) →
      Spells rules set (chainlOf operand operators)
  | filter : set body → Spells rules set (.filter body test message)
  | indexed : set body → Spells rules set (.indexed body)
  | rule : (∀ body, rules.lookup name = some body → set body) → Spells rules set (.rule name)

/-- The grammar is in a set of grammars that yield the text they read, all of them by means of
others of the set. -/
def Spelled (rules : Rules) (grammar : Grammar) : Prop :=
  ∃ set : Grammar → Prop, set grammar ∧ ∀ part, set part → Spells rules set part

theorem Spells.imp {set set' : Grammar → Prop} (himp : ∀ part, set part → set' part)
    (h : Spells rules set grammar) : Spells rules set' grammar := by
  cases h with
  | character => exact .character
  | literal => exact .literal
  | pattern => exact .pattern
  | tuple hall => exact .tuple fun part hpart => himp part (hall part hpart)
  | list hall => exact .list fun part hpart => himp part (hall part hpart)
  | choose hall => exact .choose fun part hpart => himp part (hall part hpart)
  | optional hbody => exact .optional (himp _ hbody)
  | many hbody => exact .many (himp _ hbody)
  | interpose hitem hseparator => exact .interpose (himp _ hitem) (himp _ hseparator)
  | chainl hoperand hoperator hfold => exact .chainl (himp _ hoperand) (himp _ hoperator) hfold
  | chainlOf hoperand hoperators =>
    refine .chainlOf (himp _ hoperand) fun operator hoperator => ?_
    exact (hoperators operator hoperator).imp_left (himp _)
  | filter hbody => exact .filter (himp _ hbody)
  | indexed hbody => exact .indexed (himp _ hbody)
  | rule hbody => exact .rule fun body hlookup => himp body (hbody body hlookup)

theorem Spelled.spells (h : Spelled rules grammar) : Spells rules (Spelled rules) grammar := by
  obtain ⟨set, hset, hspells⟩ := h
  exact (hspells grammar hset).imp fun part hpart => ⟨set, hpart, hspells⟩

def Numbered (operators : List (Grammar × Value.Fold)) (value : Value) (text : Text) : Prop :=
  ∃ number operator inner, operators[number]? = some operator ∧
    value = .tuple [.int (.ofNat number), inner] ∧ text = inner.toText

structure Tells (rules : Rules) (grammar : Grammar) (cursor : Cursor) (value : Value)
    (rest : Cursor) : Prop where
  spelled : Spelled rules grammar → cursor.Reads value.toText rest
  numbered : ∀ operators, (∀ operator ∈ operators, Spelled rules operator.1) →
    grammar = .choose (numbered operators) ∨ grammar ∈ numbered operators →
    ∃ text, Numbered operators value text ∧ cursor.Reads text rest

variable {rules : Rules} {grammar : Grammar} {cursor rest : Cursor} {value : Value}
  {matched : Grammar → Cursor → Value → Cursor → Prop} {failed : Grammar → Cursor → Prop}

theorem Threaded.reads {all : List Grammar} {values : List Value}
    (hall : ∀ part ∈ all, ∀ entry value stop, matched part entry value stop →
      entry.Reads value.toText stop)
    (h : Threaded matched all cursor values rest) :
    cursor.Reads (Value.textOfAll values) rest := by
  induction h with
  | nil => exact .rfl
  | cons hfirst _ ih =>
    obtain ⟨hhead, htail⟩ := List.forall_mem_cons.mp hall
    exact (hhead _ _ _ hfirst).trans (ih htail)

theorem Threaded.reads_chain {entry : Cursor} {linking item : Grammar} {fold : Value.Fold}
    {first : Value} {pairs : List (Value × Value)}
    (hlink : ∀ entry link stop, matched linking entry link stop →
      ∃ text, entry.Reads text stop ∧
        ∀ left right, (fold link left right).toText = left.toText ++ text ++ right.toText)
    (hitem : ∀ entry value stop, matched item entry value stop → entry.Reads value.toText stop)
    (hfirst : entry.Reads first.toText cursor)
    (h : Threaded matched (List.replicate rounds [linking, item]).flatten cursor
      (pairs.flatMap fun (link, value) => [link, value]) rest) :
    entry.Reads (pairs.foldl (fun joined (link, value) => fold link joined value) first).toText
      rest := by
  induction pairs generalizing first cursor rounds with
  | nil =>
    cases rounds with
    | zero =>
      cases h
      exact hfirst
    | succ rounds => cases h
  | cons pair pairs ih =>
    obtain ⟨link, value⟩ := pair
    cases rounds with
    | zero => cases h
    | succ rounds =>
      obtain _ | ⟨hlinked, _ | ⟨hvalue, hlater⟩⟩ := h
      obtain ⟨text, hreads, hfold⟩ := hlink _ _ _ hlinked
      refine ih ?_ hlater
      rw [hfold]
      exact (hfirst.trans hreads).trans (hitem _ _ _ hvalue)

section
variable {operators : List (Grammar × Value.Fold)}

theorem mem_numbered {part : Grammar} (h : part ∈ numbered operators) :
    ∃ number operator, operators[number]? = some operator ∧
      part = .map operator.1 fun value => .tuple [.int (.ofNat number), value] := by
  obtain ⟨⟨operator, number⟩, hmem, rfl⟩ := List.mem_map.mp h
  exact ⟨number, operator, List.mem_zipIdx_iff_getElem?.mp hmem, rfl⟩

theorem toNatClampNeg_ofNat_le (number : Nat) : (Int64.ofNat number).toNatClampNeg ≤ number := by
  show (Int64.ofNat number).toInt.toNat ≤ number
  rw [Int64.toInt_ofNat', Int.bmod_def, Int64.size]
  split <;> omega

/-- The number that a value is paired with leads to the fold of an operator: if the number does not
fit, not to its own, but all of them keep the order. -/
theorem chainlOf_eq (operand : Grammar)
    (hfolds : ∀ operator ∈ operators, operator.2.InOrder) :
    ∃ fold : Value.Fold,
      chainlOf operand operators = .chainl operand (.choose (numbered operators)) fold ∧
      ∀ link text, Numbered operators link text → ∀ left right,
        (fold link left right).toText = left.toText ++ text ++ right.toText := by
  refine ⟨_, rfl, ?_⟩
  rintro _ _ ⟨number, operator, inner, hoperator, rfl, rfl⟩ left right
  have hnumber := (List.getElem?_eq_some_iff.mp hoperator).1
  have hfound :=
    List.getElem?_eq_getElem (Nat.lt_of_le_of_lt (toNatClampNeg_ofNat_le number) hnumber)
  simp only [hfound]
  exact hfolds _ (List.mem_of_getElem? hfound) inner left right

end

theorem Spells.calls {set : Grammar → Prop} (h : Spells rules set grammar)
    (hchain : ∀ operand operator fold, grammar ≠ .chainl operand operator fold) :
    ∀ part ∈ grammar.calls rules, set part := by
  cases h with
  | tuple hset | list hset | choose hset => exact hset
  | interpose hitem hseparator => simp [hitem, hseparator]
  | chainl => exact absurd rfl (hchain _ _ _)
  | chainlOf => exact absurd rfl (hchain _ _ _)
  | rule hbody => simpa using hbody
  | _ => simp_all

theorem Spells.toText_eq {set : Grammar → Prop} (h : Spells rules set grammar)
    (hchain : ∀ operand operator fold, grammar ≠ .chainl operand operator fold)
    (hbuilds : Builds grammar values value) : value.toText = Value.textOfAll values := by
  cases hbuilds with
  | between => cases h
  | map => cases h
  | chainl => exact absurd rfl (hchain _ _ _)
  | _ => simp [Value.toText, Value.textOfAll]

theorem Threaded.reads_chainl {operand operator : Grammar} {fold : Value.Fold}
    (hspells : Spells rules (Spelled rules) (.chainl operand operator fold))
    (hbuilds : Builds (.chainl operand operator fold) values value)
    (h : Threaded (Tells rules) (operand :: (List.replicate rounds [operator, operand]).flatten)
      cursor values rest) : cursor.Reads value.toText rest := by
  cases hbuilds
  obtain _ | ⟨hfirst, hlater⟩ := h
  -- A chain of several operators is a `chainl`, too: the cases are on how the chain is spelled.
  generalize hgrammar : Grammar.chainl operand operator fold = grammar at hspells
  cases hspells with
  | chainl hoperand hoperator hfold =>
    obtain ⟨rfl, rfl, rfl⟩ := Grammar.chainl.inj hgrammar
    refine hlater.reads_chain (fun _ link _ hlink => ?_)
      (fun _ _ _ hitem => hitem.spelled hoperand) (hfirst.spelled hoperand)
    exact ⟨link.toText, hlink.spelled hoperator, hfold link⟩
  | @chainlOf _ operators hoperand hoperators =>
    obtain ⟨_, heq, hfold⟩ := chainlOf_eq _ fun operator hmem => (hoperators operator hmem).2
    obtain ⟨rfl, rfl, rfl⟩ := Grammar.chainl.inj (hgrammar.trans heq)
    refine hlater.reads_chain (fun _ link _ hlink => ?_)
      (fun _ _ _ hitem => hitem.spelled hoperand) (hfirst.spelled hoperand)
    obtain ⟨text, hnumbered, hreads⟩ := hlink.numbered operators
      (fun operator hmem => (hoperators operator hmem).1) (.inl rfl)
    exact ⟨text, hreads, hfold link text hnumbered⟩
  | _ => cases hgrammar

theorem Matching.reads (hcursor : cursor.OnSymbol) (hspells : Spells rules (Spelled rules) grammar)
    (h : Matching rules (Tells rules) failed grammar cursor value rest) :
    cursor.Reads value.toText rest := by
  cases h with
  | character hcurrent =>
    obtain ⟨after, hafter⟩ := Cursor.remainder_eq_cons hcurrent
    have hreads := Cursor.reads_advance hcursor 1
    rw [hafter] at hreads
    exact hreads
  | literal hstarts =>
    obtain ⟨after, hafter⟩ := hstarts
    exact Cursor.reads_skipBytes hcursor hafter.symm
  | pattern hfound =>
    rw [Pattern.toText_captures hfound]
    exact Cursor.reads_advance hcursor _
  | leaf => cases hspells
  | parts hunrolls hthreaded hbuilds =>
    by_cases hchain : ∃ operand operator fold, grammar = .chainl operand operator fold
    · obtain ⟨operand, operator, fold, rfl⟩ := hchain
      cases hunrolls
      exact hthreaded.reads_chainl hspells hbuilds
    · have hchain : ∀ operand operator fold, grammar ≠ .chainl operand operator fold :=
        fun operand operator fold h => hchain ⟨operand, operator, fold, h⟩
      rw [hspells.toText_eq hchain hbuilds]
      refine hthreaded.reads fun part hpart _ _ _ htells => ?_
      exact htells.spelled (hspells.calls hchain part (hunrolls.calls part hpart))
  | choose _ hwinner =>
    cases hspells with
    | choose hset => exact hwinner.spelled (hset _ (by simp))
  | absent => exact .rfl
  | indexed hbody =>
    cases hspells with
    | indexed hset => exact hbody.spelled hset
  | mapState => cases hspells

theorem Matching.reads_numbered {operators : List (Grammar × Value.Fold)}
    (hoperators : ∀ operator ∈ operators, Spelled rules operator.1)
    (hgrammar : grammar = .choose (numbered operators) ∨ grammar ∈ numbered operators)
    (h : Matching rules (Tells rules) failed grammar cursor value rest) :
    ∃ text, Numbered operators value text ∧ cursor.Reads text rest := by
  obtain rfl | hgrammar := hgrammar
  · generalize hchoice : Grammar.choose (numbered operators) = grammar at h
    cases h with
    | choose _ hwinner =>
      refine hwinner.numbered operators hoperators (.inr ?_)
      rw [Grammar.choose.inj hchoice]
      simp
    | parts hunrolls =>
      subst hchoice
      cases hunrolls
    | _ => cases hchoice
  · obtain ⟨number, operator, hnumber, rfl⟩ := mem_numbered hgrammar
    cases h with
    | parts hunrolls hthreaded hbuilds =>
      cases hunrolls
      cases hbuilds
      obtain _ | ⟨hinner, _ | _⟩ := hthreaded
      have hspelled := hoperators operator (List.mem_of_getElem? hnumber)
      exact ⟨_, ⟨number, operator, _, hnumber, rfl, rfl⟩, hinner.spelled hspelled⟩

theorem Spells.plain {set : Grammar → Prop} (h : Spells rules set grammar) : grammar.Plain := by
  cases h <;> trivial

theorem Spelled.within (h : Spelled rules grammar) (hpart : Within rules grammar part) :
    Spelled rules part ∨ ∃ operators : List (Grammar × Value.Fold),
      (∀ operator ∈ operators, Spelled rules operator.1) ∧
      (part = .choose (numbered operators) ∨ part ∈ numbered operators) := by
  induction hpart with
  | refl => exact .inl h
  | @tail middle part _ hcall ih =>
    obtain hspelled | ⟨operators, hoperators, rfl | hmem⟩ := ih
    · by_cases hchain : ∃ operand operator fold, middle = .chainl operand operator fold
      · obtain ⟨operand, operator, fold, rfl⟩ := hchain
        generalize hmiddle : Grammar.chainl operand operator fold = middle at hspelled
        cases hspelled.spells with
        | chainl hoperand hoperator =>
          obtain ⟨rfl, rfl, rfl⟩ := Grammar.chainl.inj hmiddle
          simp only [calls, parts, List.mem_cons, List.not_mem_nil, or_false] at hcall
          obtain rfl | rfl := hcall
          · exact .inl hoperand
          · exact .inl hoperator
        | @chainlOf _ operators hoperand hoperators =>
          obtain ⟨rfl, rfl, -⟩ := Grammar.chainl.inj hmiddle
          simp only [calls, parts, List.mem_cons, List.not_mem_nil, or_false] at hcall
          obtain rfl | rfl := hcall
          · exact .inl hoperand
          · exact .inr ⟨operators, fun operator hmem => (hoperators operator hmem).1, .inl rfl⟩
        | _ => cases hmiddle
      · refine .inl (hspelled.spells.calls ?_ part hcall)
        exact fun operand operator fold h => hchain ⟨operand, operator, fold, h⟩
    · exact .inr ⟨operators, hoperators, .inr hcall⟩
    · obtain ⟨number, operator, hnumber, rfl⟩ := mem_numbered hmem
      obtain rfl : part = operator.1 := List.mem_singleton.mp hcall
      exact .inl (hoperators operator (List.mem_of_getElem? hnumber))

theorem Spelled.stays (h : Spelled rules grammar) : grammar.Every rules Stays := by
  intro part hpart
  obtain hspelled | ⟨operators, -, rfl | hmem⟩ := h.within hpart
  · exact hspelled.spells.plain.stays
  · exact Plain.stays trivial
  · obtain ⟨_, _, -, rfl⟩ := mem_numbered hmem
    exact Plain.stays trivial

/-- Nothing that is read is lost, repeated or moved: the text of the value of a match is the text
from the cursor where the grammar was run to the cursor where the match ends. -/
theorem toText_eq_slice (hgrammar : Spelled rules grammar) (hcursor : cursor.OnSymbol)
    (h : (grammar.parser rules cursor).outcome = .matched value rest) :
    cursor.source.slice? cursor.index rest.index = some value.toText := by
  have htells : Tells rules grammar cursor value rest := by
    refine matches_induction (motive := Tells rules) (fun _ h => h) ?_ hgrammar.stays hcursor h
    intro grammar cursor value rest _ hcursor hmatching
    have hmatching := hmatching.imp fun _ _ _ _ _ hpart => hpart.2.2
    constructor
    · exact fun hspelled => hmatching.reads hcursor hspelled.spells
    · exact fun operators hoperators hgrammar => hmatching.reads_numbered hoperators hgrammar
  exact (htells.spelled hgrammar).slice?_eq hcursor

def element : Grammar :=
  .choose [.tuple [.character 'é', .character '!'], .character 'é', .rule ['v']]

def elements : Grammar :=
  .tuple [.character '(', .optional (.interpose element (.character ',')),
    .optional (.character ','), .character ')']

def joined : Grammar :=
  chainlOf (.rule ['v'])
    [(.character '+', Value.Fold.node), (.literal ['-', '>'], Value.Fold.concat)]

theorem joined_spelled : Spelled [(['v'], elements)] joined := by
  let set : List Grammar :=
    [joined, .rule ['v'], elements, element, .character '(', .character ')', .character ',',
      .character '+', .literal ['-', '>'], .optional (.character ','),
      .optional (.interpose element (.character ',')), .interpose element (.character ','),
      .tuple [.character 'é', .character '!'], .character 'é', .character '!']
  refine ⟨(· ∈ set), List.mem_cons_self, ?_⟩
  simp only [set, List.forall_mem_cons]
  refine ⟨.chainlOf ?_ ?_, .rule ?_, .tuple ?_, .choose ?_, .character, .character, .character,
    .character, .literal, .optional ?_, .optional ?_, .interpose ?_ ?_, .tuple ?_, .character,
    .character, nofun⟩
  all_goals simp [Value.Fold.inOrder_node, Value.Fold.inOrder_concat]

/-- Given up on the way: two elements, a comma, and at the end an operator without operand. -/
theorem toText_eq_slice_joined :
    (joined.parser [(['v'], elements)]
        ⟨['→', '(', 'é', ',', '(', ')', ',', ')', '+', '(', ')', '+'], 3⟩).outcome =
      .matched (.node ['+']
          (.tuple [.char '(',
            .some (.list [.char 'é', .char ',', .tuple [.char '(', .none, .none, .char ')']]),
            .some (.char ','), .char ')'])
          (.tuple [.char '(', .none, .none, .char ')']))
        ⟨['→', '(', 'é', ',', '(', ')', ',', ')', '+', '(', ')', '+'], 14⟩ ∧
      Text.slice? ['→', '(', 'é', ',', '(', ')', ',', ')', '+', '(', ')', '+'] 3 14 =
        some ['(', 'é', ',', '(', ')', ',', ')', '+', '(', ')'] := by
  refine ⟨?hmatched, toText_eq_slice joined_spelled ⟨['→'], _, rfl, rfl⟩ ?hmatched⟩
  cbv

end Grammar

end Descent
