import Mathlib
import Descent.Pattern

/-!
# Patterns of one class

`[..]` and `[..]+` at the start of a text: what the search in depth finds for
them, for every class and every text. The first takes one symbol of the class
(`search_one`), the second the longest run of such symbols, if there are any
(`search_run`). The search never meets a node twice at one place: a round leaves
only the choice of another round visited there (`Unvisited`).

From this follows what the patterns of a calculator read.
-/

namespace Descent

theorem Text.takeWhile_eq_nil {text : Text} (h : text.head?.any holds = false) :
    text.takeWhile holds = [] := by
  cases text with
  | nil => rfl
  | cons symbol rest => exact List.takeWhile_cons_of_neg (by simpa using h)

namespace Regex

variable {nodes : Nodes} {scope : Scope} {visited : Std.HashSet (Nat × Nat)}
  {waiting branches : List Thread} {node : Node} {stored : List (Nat × Nat)}

-- ---------------------------------------------------------------------------
-- Visits
-- ---------------------------------------------------------------------------

theorem follow_visit (hvisited : visited.contains (place, position) = false)
    (hnode : nodes[place]? = some node) (haccept : node.isAccept = false)
    (hstep : Thread.step scope ⟨place, position, stored⟩ node = branches) :
    follow nodes scope (steps + 1) (⟨place, position, stored⟩ :: waiting) visited =
      follow nodes scope steps (branches ++ waiting) (visited.insert (place, position)) := by
  simp [follow, hvisited, hnode, haccept, hstep]

theorem follow_accept (hvisited : visited.contains (place, position) = false)
    (hnode : nodes[place]? = some .accept) (hstop : scope.accepts position = true) :
    follow nodes scope (steps + 1) (⟨place, position, stored⟩ :: waiting) visited =
      some stored := by
  simp [follow, hvisited, hnode, Node.isAccept, hstop]

theorem step_store (slot next : Nat) :
    Thread.step scope ⟨place, position, stored⟩ (.store slot next) =
      [⟨next, position, (slot, position) :: stored⟩] := rfl

theorem step_split (first second : Nat) :
    Thread.step scope ⟨place, position, stored⟩ (.split first second) =
      [⟨first, position, stored⟩, ⟨second, position, stored⟩] := rfl

theorem step_textStart (next : Nat) :
    Thread.step scope ⟨place, 0, stored⟩ (.lookAt .textStart next) = [⟨next, 0, stored⟩] := rfl

/-- The whole text, with matches that may stop anywhere. -/
def wholeText (text : Text) : Scope :=
  { text := text.toArray, stop := text.toArray.size, exact := false }

theorem step_oneOf (before rest : Text) (set : CharClass) (next : Nat) :
    Thread.step (wholeText (before ++ rest)) ⟨place, before.length, stored⟩ (.oneOf set next) =
      if rest.head?.any set.holds then [⟨next, before.length + 1, stored⟩] else [] := by
  cases rest with
  | nil => simp [Thread.step, wholeText]
  | cons symbol rest =>
    simp [Thread.step, wholeText]
    rfl

theorem follow_enter (hstore : nodes[start]? = some (.store 0 look))
    (hlook : nodes[look]? = some (.lookAt .textStart body)) (hne : look ≠ start) (text : Text)
    (steps : Nat) :
    follow nodes (wholeText text) (steps + 2) [⟨start, 0, []⟩] {} =
      follow nodes (wholeText text) steps [⟨body, 0, [(0, 0)]⟩]
        (({} : Std.HashSet (Nat × Nat)).insert (start, 0) |>.insert (look, 0)) := by
  have hvisited : (({} : Std.HashSet (Nat × Nat)).insert (start, 0)).contains (look, 0) =
      false := by
    simpa using hne.symm
  rw [follow_visit (by simp) hstore rfl (step_store 0 look), List.cons_append, List.nil_append,
    follow_visit hvisited hlook rfl (step_textStart body), List.cons_append, List.nil_append]

theorem follow_leave (hstore : nodes[1]? = some (.store 1 0)) (haccept : nodes[0]? = some .accept)
    (hvisited : ∀ node ≤ 1, visited.contains (node, position) = false) (text : Text) (steps : Nat) :
    follow nodes (wholeText text) (steps + 2) (⟨1, position, stored⟩ :: waiting) visited =
      some ((1, position) :: stored) := by
  have hvisited' : (visited.insert (1, position)).contains (0, position) = false := by
    simpa using hvisited 0 (Nat.zero_le 1)
  rw [follow_visit (hvisited 1 (Nat.le_refl 1)) hstore rfl (step_store 1 0), List.cons_append,
    List.nil_append, follow_accept hvisited' haccept rfl]

/-- Without a test that asks for the next symbol, a search is a search in depth from the start. -/
theorem search_anchored (program : Program) (text : Text) (hanchored : program.anchored = true)
    (hlooks : (program.nodes.toList.filterMap Node.look?).any Look.asksNext = false) :
    program.search text = program.searchFrom (wholeText text) [0] := by
  have hsweep : program.sweep text = .undecided := by simp [Program.sweep, hlooks]
  simp only [Program.search, hsweep, hanchored, if_true, wholeText]

-- ---------------------------------------------------------------------------
-- One symbol
-- ---------------------------------------------------------------------------

def one (set : CharClass) : Regex := .group 0 (.concat [.lookAt .textStart, .oneOf set])

def oneNodes (set : CharClass) : Nodes :=
  #[.accept, .store 1 0, .oneOf set 1, .lookAt .textStart 2, .store 0 3]

theorem program_one (set : CharClass) : (one set).program = ⟨oneNodes set, 4, 1, true⟩ := rfl

theorem follow_one (set : CharClass) (text : Text) (hsteps : 5 ≤ steps) :
    follow (oneNodes set) (wholeText text) steps [⟨4, 0, []⟩] {} =
      if text.head?.any set.holds then some [(1, 1), (0, 0)] else none := by
  obtain ⟨steps, rfl⟩ := Nat.exists_eq_add_of_le' hsteps
  have hstore : (oneNodes set)[4]? = some (.store 0 3) := rfl
  have hlook : (oneNodes set)[3]? = some (.lookAt .textStart 2) := rfl
  have honeOf : (oneNodes set)[2]? = some (.oneOf set 1) := rfl
  have hstep : Thread.step (wholeText text) ⟨2, 0, [(0, 0)]⟩ (.oneOf set 1) =
      if text.head?.any set.holds then [⟨1, 1, [(0, 0)]⟩] else [] := step_oneOf [] text set 1
  rw [follow_enter hstore hlook (by decide), follow_visit (by simp) honeOf rfl hstep]
  split
  · exact follow_leave rfl rfl (by simp) text steps
  · rfl

theorem search_one (set : CharClass) (text : Text) :
    (one set).program.search text =
      if text.head?.any set.holds then some [some (0, 1)] else none := by
  have hsteps : 5 ≤ ((wholeText text).text.size + 1) * (2 * 5) + 1 + 1 := by omega
  rw [search_anchored _ _ rfl rfl, program_one]
  show Option.map _ (follow (oneNodes set) (wholeText text)
    (((wholeText text).text.size + 1) * (2 * 5) + 1 + 1) [⟨4, 0, []⟩] {}) = _
  rw [follow_one set text hsteps]
  split <;> rfl

-- ---------------------------------------------------------------------------
-- Runs
-- ---------------------------------------------------------------------------

def run (set : CharClass) : Regex :=
  .group 0 (.concat [.lookAt .textStart, .repetition (.oneOf set) 1 none true])

def runNodes (set : CharClass) : Nodes :=
  #[.accept, .store 1 0, .split 3 1, .oneOf set 2, .lookAt .textStart 3, .store 0 4]

theorem program_run (set : CharClass) : (run set).program = ⟨runNodes set, 5, 1, true⟩ := rfl

/-- Of the nodes behind the test of the start, no more was visited at a place or further on than the
choice of another round. -/
def Unvisited (visited : Std.HashSet (Nat × Nat)) (position : Nat) : Prop :=
  ∀ node place, node ≤ 3 → visited.contains (node, place) = true →
    place < position ∨ node = 2 ∧ place = position

theorem Unvisited.not_contains {number place : Nat} (h : Unvisited visited position)
    (hnumber : number ≤ 3) (hplace : position < place ∨ position = place ∧ number ≠ 2) :
    visited.contains (number, place) = false := by
  refine Bool.eq_false_iff.mpr fun hvisited => ?_
  have := h number place hnumber hvisited
  omega

theorem Unvisited.round (h : Unvisited visited position) :
    Unvisited ((visited.insert (3, position)).insert (2, position + 1)) (position + 1) := by
  intro node place hnode hvisited
  simp only [Std.HashSet.contains_insert, Bool.or_eq_true, beq_iff_eq, Prod.mk.injEq] at hvisited
  obtain ⟨rfl, rfl⟩ | ⟨rfl, rfl⟩ | hvisited := hvisited
  · exact .inr ⟨rfl, rfl⟩
  · exact .inl (Nat.lt_succ_self _)
  · have := h node place hnode hvisited
    omega

theorem follow_stop (set : CharClass) (before : Text) {rest : Text}
    (hrest : rest.head?.any set.holds = false) (hvisited : Unvisited visited before.length)
    (steps : Nat) :
    follow (runNodes set) (wholeText (before ++ rest)) (steps + 1)
        (⟨3, before.length, stored⟩ :: waiting) visited =
      follow (runNodes set) (wholeText (before ++ rest)) steps waiting
        (visited.insert (3, before.length)) := by
  have honeOf : (runNodes set)[3]? = some (.oneOf set 2) := rfl
  rw [follow_visit (hvisited.not_contains (Nat.le_refl 3) (.inr ⟨rfl, by decide⟩)) honeOf rfl
    (step_oneOf before rest set 2), hrest]
  rfl

theorem follow_round (set : CharClass) {before later : Text} {symbol : Char}
    (hsymbol : set.holds symbol = true) (hvisited : Unvisited visited before.length)
    (steps : Nat) :
    follow (runNodes set) (wholeText (before ++ symbol :: later)) (steps + 2)
        (⟨3, before.length, stored⟩ :: waiting) visited =
      follow (runNodes set) (wholeText ((before ++ [symbol]) ++ later)) steps
        (⟨3, (before ++ [symbol]).length, stored⟩ :: ⟨1, before.length + 1, stored⟩ :: waiting)
        ((visited.insert (3, before.length)).insert (2, before.length + 1)) := by
  have honeOf : (runNodes set)[3]? = some (.oneOf set 2) := rfl
  have hsplit : (runNodes set)[2]? = some (.split 3 1) := rfl
  have hstep : Thread.step (wholeText (before ++ symbol :: later)) ⟨3, before.length, stored⟩
      (.oneOf set 2) = [⟨2, before.length + 1, stored⟩] := by
    rw [step_oneOf before (symbol :: later) set 2, List.head?_cons, Option.any_some, if_pos hsymbol]
  have hvisited' : (visited.insert (3, before.length)).contains (2, before.length + 1) = false := by
    simpa using hvisited.not_contains (by decide) (.inl (Nat.lt_succ_self _))
  rw [follow_visit (hvisited.not_contains (Nat.le_refl 3) (.inr ⟨rfl, by decide⟩)) honeOf rfl hstep,
    List.cons_append, List.nil_append, follow_visit hvisited' hsplit rfl (step_split 3 1),
    List.append_assoc, List.length_append]
  rfl

theorem follow_last (set : CharClass) {before later : Text} {symbol : Char}
    (hsymbol : set.holds symbol = true) (hlater : later.head?.any set.holds = false)
    (hvisited : Unvisited visited before.length) (hsteps : 5 ≤ steps) :
    follow (runNodes set) (wholeText (before ++ symbol :: later)) steps
        (⟨3, before.length, stored⟩ :: waiting) visited =
      some ((1, before.length + 1) :: stored) := by
  obtain ⟨steps, rfl⟩ := Nat.exists_eq_add_of_le' hsteps
  have hround : Unvisited ((visited.insert (3, before.length)).insert (2, before.length + 1))
      (before ++ [symbol]).length := by
    simpa using hvisited.round
  rw [follow_round set hsymbol hvisited (steps + 3), follow_stop set _ hlater hround]
  refine follow_leave rfl rfl (fun number hnumber => ?_) _ steps
  have hfresh : ((visited.insert (3, before.length)).insert (2, before.length + 1)).contains
      (number, before.length + 1) = false :=
    hround.not_contains (by omega) (.inr ⟨by simp, by omega⟩)
  rw [Std.HashSet.contains_insert, hfresh]
  simp
  omega

theorem follow_rounds (set : CharClass) (before : Text) {later : Text} {symbol : Char}
    (hsymbol : set.holds symbol = true) (hvisited : Unvisited visited before.length)
    (hsteps : 2 * later.length + 5 ≤ steps) :
    follow (runNodes set) (wholeText (before ++ symbol :: later)) steps
        (⟨3, before.length, stored⟩ :: waiting) visited =
      some ((1, before.length + 1 + (later.takeWhile set.holds).length) :: stored) := by
  induction later generalizing before symbol visited waiting steps with
  | nil => exact follow_last set hsymbol rfl hvisited hsteps
  | cons next later ih =>
    rw [List.length_cons] at hsteps
    cases hnext : set.holds next with
    | true =>
      obtain ⟨steps, rfl⟩ : ∃ less, steps = less + 2 := ⟨steps - 2, by omega⟩
      rw [follow_round set hsymbol hvisited, ih _ hnext (by simpa using hvisited.round) (by omega),
        List.takeWhile_cons_of_pos hnext]
      simp
      omega
    | false =>
      rw [List.takeWhile_cons_of_neg (by simp [hnext])]
      exact follow_last set hsymbol (by simpa using hnext) hvisited (by omega)

theorem follow_run (set : CharClass) (text : Text) (hsteps : 2 * text.length + 7 ≤ steps) :
    follow (runNodes set) (wholeText text) steps [⟨5, 0, []⟩] {} =
      if text.takeWhile set.holds = [] then none
      else some [(1, (text.takeWhile set.holds).length), (0, 0)] := by
  obtain ⟨steps, rfl⟩ : ∃ less, steps = less + 2 := ⟨steps - 2, by omega⟩
  have hstore : (runNodes set)[5]? = some (.store 0 4) := rfl
  have hlook : (runNodes set)[4]? = some (.lookAt .textStart 3) := rfl
  have hvisited : Unvisited (({} : Std.HashSet (Nat × Nat)).insert (5, 0) |>.insert (4, 0)) 0 := by
    intro number place hnumber hvisited
    simp at hvisited
    omega
  rw [follow_enter hstore hlook (by decide)]
  cases hhead : text.head?.any set.holds with
  | false =>
    obtain ⟨steps, rfl⟩ : ∃ less, steps = less + 2 := ⟨steps - 2, by omega⟩
    rw [if_pos (Text.takeWhile_eq_nil hhead)]
    exact follow_stop set [] hhead hvisited (steps + 1)
  | true =>
    obtain ⟨symbol, later, rfl⟩ : ∃ symbol later, text = symbol :: later :=
      List.exists_cons_of_ne_nil (by rintro rfl; cases hhead)
    have hsymbol : set.holds symbol = true := hhead
    have hrounds : 2 * later.length + 5 ≤ steps := by
      simp only [List.length_cons] at hsteps
      omega
    rw [List.takeWhile_cons_of_pos hsymbol, if_neg (List.cons_ne_nil _ _), List.length_cons]
    simpa [Nat.add_comm] using follow_rounds set [] hsymbol hvisited hrounds

theorem search_run (set : CharClass) (text : Text) :
    (run set).program.search text =
      if text.takeWhile set.holds = [] then none
      else some [some (0, (text.takeWhile set.holds).length)] := by
  have hsteps : 2 * text.length + 7 ≤ ((wholeText text).text.size + 1) * (2 * 6) + 1 + 1 := by
    simp [wholeText]
    omega
  rw [search_anchored _ _ rfl rfl, program_run]
  show Option.map _ (follow (runNodes set) (wholeText text)
    (((wholeText text).text.size + 1) * (2 * 6) + 1 + 1) [⟨5, 0, []⟩] {}) = _
  rw [follow_run set text hsteps]
  split <;> rfl

end Regex

theorem CharClass.holds_digits : holds [(48, 57)] = Char.isDigit := by
  funext symbol
  simp only [holds, Unicode.Ranges.contains, Bool.or_false]
  rfl

theorem CharClass.holds_pair (first second : Char) (h : first.toNat < second.toNat) :
    holds [(first.toNat, first.toNat), (second.toNat, second.toNat)] =
      [first, second].contains := by
  funext symbol
  rw [Bool.eq_iff_iff]
  simp only [holds, Unicode.Ranges.contains, Bool.and_eq_true, Bool.or_eq_true, decide_eq_true_eq,
    Bool.or_false, List.contains_cons, List.contains_nil, beq_iff_eq, ← Char.toNat_inj]
  omega

namespace Pattern

/-- At the start of a text, the pattern takes all such symbols up to the first other one. -/
def ReadsRun (pattern : Pattern) (holds : Char → Bool) : Prop :=
  ∀ text, pattern.search text =
    if text.takeWhile holds = [] then none else some [some (0, (text.takeWhile holds).length)]

def ReadsOne (pattern : Pattern) (holds : Char → Bool) : Prop :=
  ∀ text, pattern.search text = if text.head?.any holds then some [some (0, 1)] else none

variable {pattern : Pattern} {holds : Char → Bool}

theorem ReadsRun.matchStart? {run rest : Text} (h : pattern.ReadsRun holds) (hne : run ≠ [])
    (hrun : ∀ symbol ∈ run, holds symbol = true) (hrest : rest.head?.any holds = false) :
    ∃ found, pattern.matchStart? (run ++ rest) = some (found, run.length) := by
  have htaken : (run ++ rest).takeWhile holds = run := by
    rw [List.takeWhile_append_of_pos hrun, Text.takeWhile_eq_nil hrest, List.append_nil]
  have hsearch := h (run ++ rest)
  rw [htaken, if_neg hne] at hsearch
  rw [Pattern.matchStart?, hsearch]
  exact ⟨_, rfl⟩

theorem ReadsRun.matchStart?_eq_none {text : Text} (h : pattern.ReadsRun holds)
    (htext : text.head?.any holds = false) : pattern.matchStart? text = none := by
  rw [Pattern.matchStart?, h text, if_pos (Text.takeWhile_eq_nil htext)]

theorem ReadsOne.matchStart? {symbol : Char} (h : pattern.ReadsOne holds)
    (hsymbol : holds symbol = true) (rest : Text) :
    ∃ found, pattern.matchStart? (symbol :: rest) = some (found, 1) := by
  have hsearch := h (symbol :: rest)
  rw [List.head?_cons, Option.any_some, if_pos hsymbol] at hsearch
  rw [Pattern.matchStart?, hsearch]
  exact ⟨_, rfl⟩

theorem ReadsOne.matchStart?_eq_none {text : Text} (h : pattern.ReadsOne holds)
    (htext : text.head?.any holds = false) : pattern.matchStart? text = none := by
  rw [Pattern.matchStart?, h text, htext]
  rfl

theorem compile?_eq_some {source : Text} {regex : Regex} {names : List (Text × Nat)}
    (hread : Regex.ofText? source = some (regex, names)) (hfits : Regex.Size.fits regex = true)
    (shown : Text) : compile? shown source = some ⟨shown, names, regex.program.search⟩ := by
  simp [compile?, hread, hfits]

theorem anchored?_digits :
    ∃ digits, anchored? "[0-9]+".toList = some digits ∧ digits.ReadsRun Char.isDigit := by
  have hread : Regex.ofText? "\\A(?:[0-9]+)".toList = some (.run [(48, 57)], []) := by cbv
  have hfits : Regex.Size.fits (.run [(48, 57)]) = true := by cbv
  refine ⟨_, compile?_eq_some hread hfits _, ?_⟩
  rw [← CharClass.holds_digits]
  exact Regex.search_run [(48, 57)]

theorem anchored?_signs :
    ∃ signs, anchored? "[+-]".toList = some signs ∧ signs.ReadsOne ['+', '-'].contains := by
  have hread : Regex.ofText? "\\A(?:[+-])".toList = some (.one [(43, 43), (45, 45)], []) := by cbv
  have hfits : Regex.Size.fits (.one [(43, 43), (45, 45)]) = true := by cbv
  have hholds : CharClass.holds [(43, 43), (45, 45)] = ['+', '-'].contains :=
    CharClass.holds_pair '+' '-' (by decide)
  refine ⟨_, compile?_eq_some hread hfits _, ?_⟩
  rw [← hholds]
  exact Regex.search_one [(43, 43), (45, 45)]

theorem anchored?_factors :
    ∃ factors, anchored? "[*/]".toList = some factors ∧ factors.ReadsOne ['*', '/'].contains := by
  have hread : Regex.ofText? "\\A(?:[*/])".toList = some (.one [(42, 42), (47, 47)], []) := by cbv
  have hfits : Regex.Size.fits (.one [(42, 42), (47, 47)]) = true := by cbv
  have hholds : CharClass.holds [(42, 42), (47, 47)] = ['*', '/'].contains :=
    CharClass.holds_pair '*' '/' (by decide)
  refine ⟨_, compile?_eq_some hread hfits _, ?_⟩
  rw [← hholds]
  exact Regex.search_one [(42, 42), (47, 47)]

end Pattern

end Descent
