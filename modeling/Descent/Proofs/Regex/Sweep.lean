import Descent.Proofs.Regex.Anchor
import Descent.Proofs.Regex.Preference

/-!
# Sweeps

Where numbers fall along all edges that read nothing, a sweep stops where the
preferred branch does (`sweep_eq`), unless it is given up. What carries this from
place to place is where the first branch stops that goes on from a front: to
spread the front keeps it, though nodes are passed once only (`foremost_frontFrom`),
to pass tests late keeps it (`Awaits.settle`), and so does a symbol that is read
(`foremost_symbol`).

A search that asks a sweep first then comes to what the search in depth comes to
by itself (`search_eq`).
-/

namespace Descent.Regex

variable {nodes : Nodes} {rank : Nat → Nat} {node : Node} {holds : Look → Bool} {keep : Nat → Bool}
  {stops : Nat → Option Nat} {front met : Front} {passed seen : Std.HashSet Nat}
  {starts later : List Nat}

-- ---------------------------------------------------------------------------
-- Fronts
-- ---------------------------------------------------------------------------

/-- A branch waits at the node, though a test may let it go on as well. -/
def Node.waits : Node → Bool
  | .oneOf _ _ | .lookAt _ _ | .accept => true
  | .store _ _ | .split _ _ => false

def Node.join (node : Node) (place : Nat) (front : Front) : Front :=
  if node.waits then place :: front else front

/-- Where a branch goes on without reading, as far as tests are known to hold. -/
def Node.opens (holds : Look → Bool) : Node → List Nat
  | .lookAt look next => if holds look then [next] else []
  | .store _ next => [next]
  | .split first second => [first, second]
  | .oneOf _ _ | .accept => []

theorem Node.mem_passes_of_opens (h : target ∈ node.opens holds) : target ∈ node.passes := by
  cases node with
  | lookAt look next => exact (List.mem_ite_nil_right.mp h).2
  | oneOf set next => cases h
  | accept => cases h
  | store slot next => exact h
  | split first second => exact h

theorem Node.length_opens (holds : Look → Bool) (node : Node) : (node.opens holds).length ≤ 2 := by
  cases node with
  | lookAt look next =>
    rw [opens]
    split
    · exact Nat.le_succ _
    · exact Nat.zero_le _
  | _ => simp [opens]

theorem spread_passed (hpassed : passed.contains place = true) :
    spread nodes holds (steps + 1) (place :: starts) passed front =
      spread nodes holds steps starts passed front := by
  simp [spread, hpassed]

theorem spread_missing (hpassed : passed.contains place = false) (hnode : nodes[place]? = none) :
    spread nodes holds (steps + 1) (place :: starts) passed front =
      spread nodes holds steps starts (passed.insert place) front := by
  simp [spread, hpassed, hnode]

theorem spread_place (hpassed : passed.contains place = false) (hnode : nodes[place]? = some node) :
    spread nodes holds (steps + 1) (place :: starts) passed front =
      spread nodes holds steps (node.opens holds ++ starts) (passed.insert place)
        (node.join place front) := by
  cases node with
  | lookAt look next =>
    simp only [spread, hpassed, hnode, Node.opens]
    cases holds look <;> rfl
  | _ => simp [spread, hpassed, hnode, Node.opens, Node.join, Node.waits]

/-- Where the branches of a front stop first, from the nodes that count. -/
def foremost (keep : Nat → Bool) (stops : Nat → Option Nat) (front : Front) : Option Nat :=
  front.findSome? fun place => if keep place then stops place else none

theorem foremost_join (node : Node) (place : Nat) (front : Front) :
    foremost keep stops (node.join place front).reverse =
      (foremost keep stops front.reverse).or
        (if node.waits && keep place then stops place else none) := by
  rw [Node.join]
  cases node.waits with
  | false => exact (Option.or_none).symm
  | true =>
    rw [if_pos rfl, List.reverse_cons, foremost, List.findSome?_append, List.findSome?_singleton]
    rfl

/-- A node stops where it does itself, if it counts, or else where it opens to. -/
structure Tells (nodes : Nodes) (holds : Look → Bool) (keep : Nat → Bool)
    (stops : Nat → Option Nat) : Prop where
  missing : ∀ place, nodes[place]? = none → stops place = none
  found : ∀ place node, nodes[place]? = some node →
    (if node.waits && keep place then stops place else none).or
      ((node.opens holds).findSome? stops) = stops place

/-- To pass a node again adds nothing to a front. -/
def Told (keep : Nat → Bool) (stops : Nat → Option Nat) (front : Front) (place : Nat) : Prop :=
  stops place = none ∨ foremost keep stops front.reverse ≠ none

theorem Told.or_stops (h : Told keep stops front place) :
    (foremost keep stops front.reverse).or (stops place) = foremost keep stops front.reverse := by
  rcases h with hstops | hforemost
  · rw [hstops, Option.or_none]
  · obtain ⟨stop, hstop⟩ := Option.ne_none_iff_exists'.mp hforemost
    rw [hstop, Option.some_or]

theorem Told.join (h : Told keep stops front place) (node : Node) (other : Nat) :
    Told keep stops (node.join other front) place := by
  refine h.imp_right fun hforemost hnone => hforemost ?_
  rw [foremost_join] at hnone
  exact (Option.or_eq_none_iff.mp hnone).1

/-- A front that has been spread from some nodes, and the nodes that were passed for it. -/
structure Covers (keep : Nat → Bool) (stops : Nat → Option Nat) (starts : List Nat)
    (passed : Std.HashSet Nat) (front : Front) (seen : Std.HashSet Nat) (met : Front) : Prop where
  foremost_eq : foremost keep stops met.reverse =
    (foremost keep stops front.reverse).or (starts.findSome? stops)
  told : ∀ place, seen.contains place = true →
    passed.contains place = true ∨ Told keep stops met place

theorem Covers.refl : Covers keep stops [] passed front passed front :=
  ⟨(Option.or_none).symm, fun _ => .inl⟩

theorem Covers.told_of_told (h : Covers keep stops starts passed front seen met)
    (htold : Told keep stops front place) : Told keep stops met place := by
  refine htold.imp_right fun hforemost => ?_
  rw [h.foremost_eq]
  intro hnone
  exact hforemost (Option.or_eq_none_iff.mp hnone).1

theorem Covers.append {others : List Nat} {known : Std.HashSet Nat} {all : Front}
    (h : Covers keep stops starts passed front seen met)
    (hothers : Covers keep stops others seen met known all) :
    Covers keep stops (starts ++ others) passed front known all := by
  constructor
  · rw [hothers.foremost_eq, h.foremost_eq, Option.or_assoc, List.findSome?_append]
  · intro place hplace
    rcases hothers.told place hplace with hseen | htold
    · exact (h.told place hseen).imp_right hothers.told_of_told
    · exact .inr htold

theorem Told.covers (h : Told keep stops front place) (passed : Std.HashSet Nat) :
    Covers keep stops [place] passed front passed front :=
  ⟨by rw [List.findSome?_singleton, h.or_stops], fun _ => .inl⟩

theorem Tells.covers_missing (h : Tells nodes holds keep stops) (hnode : nodes[place]? = none)
    (passed : Std.HashSet Nat) (front : Front) :
    Covers keep stops [place] passed front (passed.insert place) front := by
  have htold : Told keep stops front place := .inl (h.missing place hnode)
  refine ⟨(htold.covers passed).foremost_eq, fun other hother => ?_⟩
  rw [Std.HashSet.contains_insert, Bool.or_eq_true] at hother
  rcases hother with hother | hother
  · exact .inr (eq_of_beq hother ▸ htold)
  · exact .inl hother

theorem Tells.covers_place (h : Tells nodes holds keep stops) (hnode : nodes[place]? = some node)
    (hopens : Covers keep stops (node.opens holds) (passed.insert place)
      (node.join place front) seen met) :
    Covers keep stops [place] passed front seen met := by
  have hmet : foremost keep stops met.reverse =
      (foremost keep stops front.reverse).or (stops place) := by
    rw [hopens.foremost_eq, foremost_join, Option.or_assoc, h.found place node hnode]
  refine ⟨by rw [hmet, List.findSome?_singleton], fun other hother => ?_⟩
  rcases hopens.told other hother with hinsert | htold
  · rw [Std.HashSet.contains_insert, Bool.or_eq_true] at hinsert
    rcases hinsert with hplace | hother
    · obtain rfl := eq_of_beq hplace
      refine .inr (or_iff_not_imp_left.mpr fun hstops hnone => hstops ?_)
      exact (Option.or_eq_none_iff.mp (hmet.symm.trans hnone)).2
    · exact .inl hother
  · exact .inr htold

/-- Whatever has been passed is told by the front, or its branches are still under way. -/
def Met (rank : Nat → Nat) (keep : Nat → Bool) (stops : Nat → Option Nat) (starts : List Nat)
    (passed : Std.HashSet Nat) (front : Front) : Prop :=
  ∀ place, passed.contains place = true →
    Told keep stops front place ∨ ∀ start ∈ starts, rank start < rank place

theorem Met.nil : Met rank keep stops [] passed front := fun _ _ => .inr fun _ h => (nomatch h)

theorem Met.of_covers {others : List Nat} (h : Met rank keep stops (starts ++ others) passed front)
    (hcovers : Covers keep stops starts passed front seen met) :
    Met rank keep stops others seen met := by
  intro place hplace
  rcases hcovers.told place hplace with hpassed | htold
  · refine (h place hpassed).imp hcovers.told_of_told fun hlt start hstart => ?_
    exact hlt start (List.mem_append_right _ hstart)
  · exact .inl htold

theorem Met.opens (hfalls : Falls rank nodes)
    (h : Met rank keep stops (place :: starts) passed front) (hnode : nodes[place]? = some node) :
    Met rank keep stops (node.opens holds) (passed.insert place) (node.join place front) := by
  intro other hother
  rw [Std.HashSet.contains_insert, Bool.or_eq_true] at hother
  rcases hother with hother | hother
  · obtain rfl := eq_of_beq hother
    exact .inr fun start hstart => hfalls _ _ hnode _ (Node.mem_passes_of_opens hstart)
  · refine (h other hother).imp (·.join node place) fun hlt start hstart => ?_
    exact (hfalls _ _ hnode _ (Node.mem_passes_of_opens hstart)).trans (hlt _ List.mem_cons_self)

theorem exists_opens (hfalls : Falls rank nodes) (htells : Tells nodes holds keep stops)
    (hsteps : Enough (Finset.range nodes.size) (steps + 1) (later.length + 1) passed)
    (hmet : Met rank keep stops (place :: starts) passed front) :
    ∃ opens known all, spread nodes holds (steps + 1) (place :: later) passed front =
        spread nodes holds steps (opens ++ later) known all ∧
      Enough (Finset.range nodes.size) steps (opens ++ later).length known ∧
      Met rank keep stops opens known all ∧
      ∀ seen met, Covers keep stops opens known all seen met →
        Covers keep stops [place] passed front seen met := by
  cases hpassed : passed.contains place with
  | true =>
    have htold := (hmet place hpassed).resolve_right fun h =>
      Nat.lt_irrefl _ (h place List.mem_cons_self)
    exact ⟨[], passed, front, spread_passed hpassed, hsteps.skip, .nil,
      fun seen met hopens => (htold.covers passed).append hopens⟩
  | false =>
    cases hnode : nodes[place]? with
    | none =>
      have hcovers := htells.covers_missing hnode passed front
      exact ⟨[], passed.insert place, front, spread_missing hpassed hnode,
        hsteps.skip.insert place, .nil, fun seen met hopens => hcovers.append hopens⟩
    | some node =>
      have hplace := Finset.mem_range.mpr (Array.getElem?_eq_some_iff.mp hnode).1
      have hvisit := hsteps.visit hplace hpassed (node.length_opens holds)
      rw [← List.length_append] at hvisit
      exact ⟨node.opens holds, passed.insert place, node.join place front,
        spread_place hpassed hnode, hvisit, hmet.opens hfalls hnode,
        fun seen met hopens => htells.covers_place hnode hopens⟩

/-- A search spreads from some nodes until it comes to those that wait behind them. -/
inductive Spreads (nodes : Nodes) (holds : Look → Bool) (keep : Nat → Bool)
    (stops : Nat → Option Nat) (starts later : List Nat) (steps : Nat) (passed : Std.HashSet Nat)
    (front : Front) : Prop
  | intro (left : Nat) (seen : Std.HashSet Nat) (met : Front) : left ≤ steps →
      Enough (Finset.range nodes.size) left later.length seen →
      spread nodes holds steps (starts ++ later) passed front =
        spread nodes holds left later seen met →
      Covers keep stops starts passed front seen met →
      Spreads nodes holds keep stops starts later steps passed front

theorem spreads_of_met (hfalls : Falls rank nodes) (htells : Tells nodes holds keep stops)
    (hsteps : Enough (Finset.range nodes.size) steps (starts ++ later).length passed)
    (hmet : Met rank keep stops starts passed front) :
    Spreads nodes holds keep stops starts later steps passed front := by
  induction steps using Nat.strong_induction_on generalizing starts later passed front with
  | _ steps ih =>
    cases starts with
    | nil => exact .intro steps passed front le_rfl hsteps rfl .refl
    | cons place starts =>
      obtain ⟨steps, rfl⟩ := Nat.exists_eq_add_one_of_ne_zero (Nat.ne_zero_of_lt hsteps)
      obtain ⟨opens, known, all, hplace, hsteps, hopens, hcovers⟩ :=
        exists_opens hfalls htells hsteps hmet
      obtain ⟨left, seen, met, hleft, hsteps, hspread, hmore⟩ :=
        ih steps (Nat.lt_succ_self _) hsteps hopens
      have hcovers := hcovers seen met hmore
      have hmet : Met rank keep stops ([place] ++ starts) passed front := hmet
      obtain ⟨least, final, total, hleast, hsteps, hspread', hothers⟩ :=
        ih left (Nat.lt_succ_of_le hleft) hsteps (hmet.of_covers hcovers)
      exact .intro least final total (hleast.trans (hleft.trans (Nat.le_succ _))) hsteps
        (hplace.trans (hspread.trans hspread')) (hcovers.append hothers)

theorem foremost_frontFrom (hfalls : Falls rank nodes) (htells : Tells nodes holds keep stops)
    (starts : List Nat) :
    foremost keep stops (frontFrom nodes holds starts) = starts.findSome? stops := by
  have hcard := Finset.card_filter_le (Finset.range nodes.size) fun place =>
    ({} : Std.HashSet Nat).contains place = false
  rw [Finset.card_range] at hcard
  have hsteps : Enough (Finset.range nodes.size) (2 * nodes.size + starts.length + 1)
      (starts ++ []).length {} := by
    rw [Enough, unvisited, List.append_nil]
    omega
  have hmet : Met rank keep stops starts {} [] := fun place hplace => by simp at hplace
  obtain ⟨left, seen, met, -, -, hspread, hcovers⟩ := spreads_of_met hfalls htells hsteps hmet
  have hdone : spread nodes holds left [] seen met = met := by cases left <;> rfl
  rw [List.append_nil] at hspread
  rw [frontFrom, hspread, hdone, hcovers.foremost_eq]
  rfl

-- ---------------------------------------------------------------------------
-- One place
-- ---------------------------------------------------------------------------

variable {done rest : Text} {look : Look} {set : CharClass}

theorem symbol_behind (done rest : Text) : (done ++ rest).toArray[done.length]? = rest.head? := by
  rw [List.getElem?_toArray, List.getElem?_append_right le_rfl, Nat.sub_self,
    List.head?_eq_getElem?]

theorem symbol_before (done rest : Text) :
    (if done.length = 0 then none else (done ++ rest).toArray[done.length - 1]?) =
      done.getLast? := by
  cases done with
  | nil => rfl
  | cons symbol done =>
    rw [if_neg (by simp), List.getElem?_toArray, List.getElem?_append_left (by simp),
      List.getLast?_eq_getElem?]

/-- Where the preferred branch stops that goes on at a node behind the text `done`. -/
def stopFrom (hfalls : Falls rank nodes) (done rest : Text) (place : Nat) : Option Nat :=
  (preferred hfalls (wholeText (done ++ rest)) ⟨place, done.length, []⟩).map Thread.position

variable {hfalls : Falls rank nodes}

theorem stopFrom_missing (hnode : nodes[place]? = none) :
    stopFrom hfalls done rest place = none := by
  rw [stopFrom, preferred_missing hnode, Option.map_none]

theorem stopFrom_accept (hnode : nodes[place]? = some .accept) :
    stopFrom hfalls done rest place = some done.length := by
  rw [stopFrom, preferred_accept hnode rfl, Option.map_some]

theorem position_preferred (hfalls : Falls rank nodes) (scope : Scope) (thread : Thread) :
    (preferred hfalls scope thread).map Thread.position =
      (preferred hfalls scope ⟨thread.node, thread.position, []⟩).map Thread.position := by
  have h := preferred_onto hfalls scope thread.stored ⟨thread.node, thread.position, []⟩
  rw [Thread.onto, List.nil_append] at h
  rw [h, Option.map_map]
  rfl

theorem stopFrom_step (hnode : nodes[place]? = some node) (haccept : node.isAccept = false) :
    stopFrom hfalls done rest place =
      (Thread.step (wholeText (done ++ rest)) ⟨place, done.length, []⟩ node).findSome? fun branch =>
        (preferred hfalls (wholeText (done ++ rest)) ⟨branch.node, branch.position, []⟩).map
          Thread.position := by
  rw [stopFrom, preferred_step hnode (by simp [haccept]), List.map_findSome?]
  exact findSome?_congr fun branch _ => position_preferred hfalls _ branch

theorem stopFrom_lookAt (hnode : nodes[place]? = some (.lookAt look next)) :
    stopFrom hfalls done rest place =
      if look.holds done.getLast? rest.head? then stopFrom hfalls done rest next else none := by
  rw [stopFrom_step hnode rfl]
  simp only [Thread.step, wholeText, symbol_behind, symbol_before]
  split
  · rw [List.findSome?_singleton]
    rfl
  · rfl

theorem stopFrom_oneOf (hnode : nodes[place]? = some (.oneOf set next)) (symbol : Char) :
    stopFrom hfalls done (symbol :: rest) place =
      if set.holds symbol then stopFrom hfalls (done ++ [symbol]) rest next else none := by
  have hplace : done.length < (done ++ symbol :: rest).toArray.size := by simp
  have hread : (done ++ [symbol]) ++ rest = done ++ symbol :: rest := by simp
  rw [stopFrom_step hnode rfl, stopFrom, hread, List.length_append, List.length_singleton]
  simp only [Thread.step, wholeText, symbol_behind, List.head?_cons, hplace, decide_true,
    Bool.true_and]
  split
  · rw [List.findSome?_singleton]
  · rfl

theorem stopFrom_end (hnode : nodes[place]? = some (.oneOf set next)) :
    stopFrom hfalls done [] place = none := by
  rw [stopFrom_step hnode rfl]
  simp only [Thread.step, wholeText, symbol_behind]
  rfl

theorem stopFrom_store (hnode : nodes[place]? = some (.store slot next)) :
    stopFrom hfalls done rest place = stopFrom hfalls done rest next := by
  rw [stopFrom_step hnode rfl, step_store, List.findSome?_singleton]
  rfl

theorem stopFrom_split (hnode : nodes[place]? = some (.split first second)) :
    stopFrom hfalls done rest place =
      (stopFrom hfalls done rest first).or (stopFrom hfalls done rest second) := by
  rw [stopFrom_step hnode rfl, step_split, findSome?_cons_or, List.findSome?_singleton]
  rfl

/-- A front cannot do without the node: it reads or accepts, or tests what has been left open. -/
def Node.stays (unknown : Look → Bool) : Node → Bool
  | .oneOf _ _ | .accept => true
  | .lookAt look _ => unknown look
  | .store _ _ | .split _ _ => false

def staying (nodes : Nodes) (unknown : Look → Bool) (place : Nat) : Bool :=
  (nodes[place]?).any (Node.stays unknown)

theorem tells_of_holds (hfalls : Falls rank nodes)
    (hholds : ∀ look, holds look = true → look.holds done.getLast? rest.head? = true)
    (hkeep : ∀ place node, nodes[place]? = some node →
      node.stays (fun look => look.holds done.getLast? rest.head? && !holds look) = true →
      keep place = true) :
    Tells nodes holds keep (stopFrom hfalls done rest) := by
  refine ⟨fun place => stopFrom_missing, fun place node hnode => ?_⟩
  cases node with
  | oneOf set next =>
    rw [hkeep place _ hnode rfl]
    exact Option.or_none
  | accept =>
    rw [hkeep place _ hnode rfl]
    exact Option.or_none
  | store slot next =>
    rw [stopFrom_store hnode]
    exact List.findSome?_singleton
  | split first second =>
    rw [stopFrom_split hnode]
    simp only [Node.opens, findSome?_cons_or, List.findSome?_nil, Option.or_none]
    rfl
  | lookAt look next =>
    have hstays := hkeep place _ hnode
    rw [stopFrom_lookAt hnode]
    simp only [Node.stays, Node.opens, Node.waits, Bool.true_and] at hstays ⊢
    cases hlook : holds look with
    | true =>
      rw [hholds look hlook, if_pos rfl, if_pos rfl, List.findSome?_singleton]
      cases keep place with
      | true => exact Option.or_self
      | false => rfl
    | false =>
      rw [hlook, Bool.not_false, Bool.and_true] at hstays
      cases hnow : look.holds done.getLast? rest.head? with
      | true =>
        rw [hstays hnow]
        exact Option.or_none
      | false => simp

/-- Branches wait in a front, and the preferred one of theirs stops at `stop`. -/
structure Awaits (hfalls : Falls rank nodes) (done rest : Text) (front : Front)
    (stop : Option Nat) : Prop where
  all : front.findSome? (stopFrom hfalls done rest) = stop
  /-- Tests that were passed on the way do not count. -/
  unknown : foremost (staying nodes (fun look => !look.holdsBefore done.getLast?))
    (stopFrom hfalls done rest) front = stop

theorem staying_eq (hnode : nodes[place]? = some node) (unknown : Look → Bool) :
    staying nodes unknown place = node.stays unknown := by
  rw [staying, hnode, Option.any_some]

theorem awaits_frontFrom (hfalls : Falls rank nodes) (done rest : Text) (starts : List Nat) :
    Awaits hfalls done rest (frontFrom nodes (·.holdsBefore done.getLast?) starts)
      (starts.findSome? (stopFrom hfalls done rest)) := by
  have hholds : ∀ look : Look, look.holdsBefore done.getLast? = true →
      look.holds done.getLast? rest.head? = true :=
    fun look hlook => look.holds_of_holdsBefore hlook rest.head?
  constructor
  · have htells : Tells nodes (·.holdsBefore done.getLast?) (fun _ => true)
        (stopFrom hfalls done rest) :=
      tells_of_holds hfalls hholds fun _ _ _ _ => rfl
    exact foremost_frontFrom hfalls htells starts
  · refine foremost_frontFrom hfalls (tells_of_holds hfalls hholds ?_) _
    intro place node hnode hstays
    rw [staying_eq hnode]
    cases node with
    | lookAt look next => exact (Bool.and_eq_true _ _ ▸ hstays).2
    | _ => exact hstays

theorem Awaits.settle (h : Awaits hfalls done rest front stop) :
    foremost (staying nodes fun _ => false) (stopFrom hfalls done rest)
      (settle nodes done.getLast? rest.head? front) = stop := by
  rw [Regex.settle]
  split
  case isTrue =>
    have htells : Tells nodes (·.holds done.getLast? rest.head?) (staying nodes fun _ => false)
        (stopFrom hfalls done rest) := by
      refine tells_of_holds hfalls (fun _ => id) fun place node hnode hstays => ?_
      rw [staying_eq hnode]
      cases node with
      | lookAt look next => simp [Node.stays] at hstays
      | _ => exact hstays
    rw [foremost_frontFrom hfalls htells, h.all]
  case isFalse hnone =>
    -- A test that has been left open does not let branches pass, so none of them stops.
    rw [← h.unknown]
    refine findSome?_congr fun place hplace => ?_
    cases hnode : nodes[place]? with
    | none => simp [stopFrom_missing hnode]
    | some node =>
      rw [staying_eq hnode, staying_eq hnode]
      cases node with
      | lookAt look next =>
        have hpasses : (look.holds done.getLast? rest.head? && !look.holdsBefore done.getLast?) =
            false := by
          rw [List.any_eq_true, not_exists] at hnone
          simpa [hnode, Node.look?] using fun h => hnone place ⟨hplace, h⟩
        rw [stopFrom_lookAt hnode, Node.stays, Node.stays]
        rcases Bool.and_eq_false_iff.mp hpasses with hlook | hbefore
        · simp [hlook]
        · rw [hbefore]
      | _ => rfl

-- ---------------------------------------------------------------------------
-- A whole sweep
-- ---------------------------------------------------------------------------

def Verdict.of : Option Nat → Verdict
  | none => .noMatch
  | some place => .stops place

theorem foremost_cons (place : Nat) (front : Front) :
    foremost keep stops (place :: front) =
      (if keep place then stops place else none).or (foremost keep stops front) :=
  findSome?_cons_or ..

theorem staying_end (place : Nat) :
    (if staying nodes (fun _ => false) place then stopFrom hfalls done [] place else none) =
      if (nodes[place]?).any Node.isAccept then some done.length else none := by
  cases hnode : nodes[place]? with
  | none => rw [stopFrom_missing hnode, ite_self]; rfl
  | some node =>
    rw [staying_eq hnode]
    cases node with
    | oneOf set next => exact stopFrom_end hnode
    | accept => exact stopFrom_accept hnode
    | _ => rfl

theorem staying_symbol (place : Nat) (symbol : Char) :
    (if staying nodes (fun _ => false) place then stopFrom hfalls done (symbol :: rest) place
      else none) =
      if (nodes[place]?).any Node.isAccept then some done.length
      else ((nodes[place]?).bind (Node.read? symbol)).bind
        (stopFrom hfalls (done ++ [symbol]) rest) := by
  cases hnode : nodes[place]? with
  | none => rw [stopFrom_missing hnode, ite_self]; rfl
  | some node =>
    rw [staying_eq hnode]
    cases node with
    | oneOf set next =>
      refine (stopFrom_oneOf hnode symbol).trans ?_
      simp only [Option.any_some, Node.isAccept, Option.bind_some, Node.read?]
      cases set.holds symbol <;> rfl
    | accept => exact stopFrom_accept hnode
    | _ => rfl

theorem foremost_end (front : Front) :
    foremost (staying nodes fun _ => false) (stopFrom hfalls done []) front =
      if front.any fun place => (nodes[place]?).any Node.isAccept then some done.length
      else none := by
  induction front with
  | nil => rfl
  | cons place front ih =>
    rw [foremost_cons, staying_end, ih, List.any_cons]
    cases (nodes[place]?).any Node.isAccept <;> rfl

theorem foremost_symbol (front : Front) (symbol : Char) :
    let readers := front.takeWhile fun place => !(nodes[place]?).any Node.isAccept
    foremost (staying nodes fun _ => false) (stopFrom hfalls done (symbol :: rest)) front =
      ((readers.filterMap fun place => (nodes[place]?).bind (Node.read? symbol)).findSome?
        (stopFrom hfalls (done ++ [symbol]) rest)).or
        (if readers.length < front.length then some done.length else none) := by
  induction front with
  | nil => rfl
  | cons place front ih =>
    simp only at ih ⊢
    rw [foremost_cons, staying_symbol, ih, List.takeWhile_cons]
    cases (nodes[place]?).any Node.isAccept with
    | true => simp
    | false =>
      simp only [Bool.not_false, if_true, Bool.false_eq_true, if_false, List.filterMap_cons,
        List.length_cons, Nat.add_lt_add_iff_right]
      cases (nodes[place]?).bind (Node.read? symbol) with
      | none => rfl
      | some next =>
        rw [Option.bind_some, ← Option.or_assoc, findSome?_cons_or]

theorem sweepFrom_eq (hfalls : Falls rank nodes) (unicodeWords : Bool)
    (hawaits : Awaits hfalls done rest front stop) (found : Option Nat) :
    sweepFrom nodes unicodeWords done.getLast? front (.of found) done.length rest = .undecided ∨
      sweepFrom nodes unicodeWords done.getLast? front (.of found) done.length rest =
        .of (stop.or found) := by
  induction rest generalizing done front found stop with
  | nil =>
    right
    rw [sweepFrom, ← hawaits.settle, foremost_end, List.head?_nil]
    split <;> rfl
  | cons symbol rest ih =>
    rw [sweepFrom]
    split
    · exact .inl rfl
    · extract_lets settled readers accepts found' next
      let starts := readers.filterMap fun place => (nodes[place]?).bind (Node.read? symbol)
      have hstop : (starts.findSome? (stopFrom hfalls (done ++ [symbol]) rest)).or
          (if accepts then some done.length else none) = stop :=
        (foremost_symbol settled symbol).symm.trans hawaits.settle
      have hnext := awaits_frontFrom hfalls (done ++ [symbol]) rest starts
      rw [List.getLast?_concat] at hnext
      have hfound : found' = .of ((if accepts then some done.length else none).or found) := by
        by_cases haccepts : accepts <;> simp [found', haccepts, Verdict.of]
      split
      case isTrue hempty =>
        have hnil : next = [] := List.isEmpty_iff.mp (Bool.and_eq_true _ _ ▸ hempty).1
        have hnone := hnext.all.symm.trans (congrArg (List.findSome? _) hnil)
        rw [hnone, List.findSome?_nil, Option.none_or] at hstop
        rw [hfound, ← hstop]
        exact .inr rfl
      case isFalse =>
        have hsweep := ih hnext ((if accepts then some done.length else none).or found)
        rw [List.getLast?_concat, List.length_append, List.length_singleton, ← Option.or_assoc,
          ← hfound] at hsweep
        rw [← hstop]
        exact hsweep

-- ---------------------------------------------------------------------------
-- Programs
-- ---------------------------------------------------------------------------

theorem CharClass.any_holds (symbol : Char) : CharClass.any.holds symbol = true := by
  have hvalid : symbol.toNat < 0xD800 ∨ 0xDFFF < symbol.toNat ∧ symbol.toNat < 0x110000 :=
    symbol.valid
  have hany : CharClass.any = [(0, 0xD7FF), (0xE000, 0x10FFFF)] := rfl
  rw [CharClass.holds, hany]
  simp only [Unicode.Ranges.contains, Bool.and_eq_true, Bool.or_eq_true, decide_eq_true_eq]
  omega

variable {program : Program} {text : Text}

theorem Falls.exists_entry (hfalls : Falls rank program.nodes) (hclosed : Closed program.nodes)
    (hstart : program.start < program.nodes.size) :
    ∃ rank, Falls rank program.entry.2 := by
  rw [Program.entry]
  split
  · exact ⟨rank, hfalls⟩
  · let rank' place := if place < program.nodes.size then rank place
      else if place = program.nodes.size then rank program.start + 1 else 0
    refine ⟨rank', ((hfalls.congr hclosed fun place hplace => if_pos hplace).push ?_).push ?_⟩
    · simp [Node.passes, hstart]
    · simp [Node.passes]

theorem preferred_extends {shared : Nodes} {rank' : Nat → Nat} (hfalls : Falls rank shared)
    (hfalls' : Falls rank' nodes) (hclosed : Closed shared) (hnodes : Extends shared nodes)
    (scope : Scope) (thread : Thread) (hthread : thread.node < shared.size) :
    preferred hfalls' scope thread = preferred hfalls scope thread := by
  induction thread using preferred_cases hfalls scope with
  | missing thread hnode =>
    rw [preferred_missing hnode, preferred_missing ((hnodes _ hthread).trans hnode)]
  | accept thread node hnode haccept =>
    rw [preferred_accept hnode haccept, preferred_accept ((hnodes _ hthread).trans hnode) haccept]
  | step thread node hnode haccept ih =>
    rw [preferred_step hnode haccept, preferred_step ((hnodes _ hthread).trans hnode) haccept]
    refine findSome?_congr fun branch hbranch => ih branch hbranch ?_
    exact hclosed node (Array.mem_of_getElem? hnode) _ (leads_of_mem_step hbranch).target

/-- The loop before a program starts at every place from the one it is at, in order. -/
theorem stopFrom_loop (hloop : nodes[loop]? = some (.split start (loop + 1)))
    (hskip : nodes[loop + 1]? = some (.oneOf .any loop)) (done rest : Text) :
    stopFrom hfalls done rest loop =
      (List.range' done.length (rest.length + 1)).findSome? fun position =>
        (preferred hfalls (wholeText (done ++ rest)) ⟨start, position, []⟩).map
          Thread.position := by
  induction rest generalizing done with
  | nil =>
    rw [stopFrom_split hloop, stopFrom_end hskip, Option.or_none]
    exact List.findSome?_singleton.symm
  | cons symbol rest ih =>
    have hread : (done ++ [symbol]) ++ rest = done ++ symbol :: rest := by simp
    rw [stopFrom_split hloop, stopFrom_oneOf hskip, CharClass.any_holds, if_pos rfl, ih, hread,
      List.length_append, List.length_singleton]
    show _ = (done.length :: List.range' (done.length + 1) (rest.length + 1)).findSome? _
    rw [findSome?_cons_or]
    rfl

theorem stopFrom_entry {rank' : Nat → Nat} (hfalls : Falls rank program.nodes)
    (hfalls' : Falls rank' program.entry.2) (hclosed : Closed program.nodes)
    (hstart : program.start < program.nodes.size) (text : Text) :
    stopFrom hfalls' [] text program.entry.1 =
      ((program.starts text).findSome? fun position =>
        preferred hfalls (wholeText text) ⟨program.start, position, []⟩).map Thread.position := by
  obtain ⟨nodes, start, count, anchored⟩ := program
  cases anchored with
  | true =>
    have hextends : Extends nodes nodes := fun _ _ => rfl
    show _ = ([0].findSome? _).map Thread.position
    rw [List.findSome?_singleton]
    exact congrArg (Option.map Thread.position)
      (preferred_extends hfalls hfalls' hclosed hextends _ ⟨start, 0, []⟩ hstart)
  | false =>
    let entered := (nodes.push (.split start (nodes.size + 1))).push (.oneOf .any nodes.size)
    have hextends : Extends nodes entered := by
      intro place hplace
      simp [entered, Array.getElem?_push, hplace.ne, (Nat.lt_succ_of_lt hplace).ne]
    have hloop : entered[nodes.size]? = some (.split start (nodes.size + 1)) := by
      rw [Array.getElem?_push, if_neg (by simp), Array.getElem?_push, if_pos rfl]
    have hskip : entered[nodes.size + 1]? = some (.oneOf .any nodes.size) := by
      rw [Array.getElem?_push, if_pos (by simp)]
    refine (stopFrom_loop hloop hskip [] text).trans ?_
    rw [List.map_findSome?, Program.starts, if_neg Bool.false_ne_true, List.range_eq_range']
    refine findSome?_congr fun position _ => ?_
    exact congrArg (Option.map Thread.position)
      (preferred_extends hfalls hfalls' hclosed hextends _ ⟨start, position, []⟩ hstart)

theorem sweep_eq (hfalls : Falls rank program.nodes) (hclosed : Closed program.nodes)
    (hstart : program.start < program.nodes.size) (text : Text) :
    program.sweep text = .undecided ∨
      program.sweep text = .of (((program.starts text).findSome? fun position =>
        preferred hfalls (wholeText text) ⟨program.start, position, []⟩).map Thread.position) := by
  obtain ⟨rank', hfalls'⟩ := hfalls.exists_entry hclosed hstart
  have hawaits := awaits_frontFrom hfalls' [] text [program.entry.1]
  rw [List.findSome?_singleton, stopFrom_entry hfalls hfalls' hclosed hstart] at hawaits
  rw [Program.sweep]
  split
  · exact .inl rfl
  · refine (sweepFrom_eq hfalls' _ hawaits none).imp_right fun hstops => hstops.trans ?_
    rw [Option.or_none]

theorem searchFrom_eq (hfalls : Falls rank program.nodes) (scope : Scope) {starts : List Nat}
    (hstarts : ∀ start ∈ starts, start ≤ scope.text.size) :
    program.searchFrom scope starts = (starts.findSome? fun position =>
      preferred hfalls scope ⟨program.start, position, []⟩).map fun thread =>
        (List.range program.groupCount).map (groupSpan thread.stored) := by
  simp only [Program.searchFrom]
  rw [follow_eq hfalls (ample_search ..) (List.forall_mem_map.mpr hstarts), List.findSome?_map,
    Option.map_map]
  rfl

-- ---------------------------------------------------------------------------
-- Searches
-- ---------------------------------------------------------------------------

theorem Program.starts_le (program : Program) (text : Text) :
    ∀ start ∈ program.starts text, start ≤ text.length := by
  rw [Program.starts]
  split
  · exact List.forall_mem_singleton.mpr (Nat.zero_le _)
  · exact fun start hstart => Nat.le_of_lt_succ (List.mem_range.mp hstart)

/-- Where branches store where they begin, to search once more as far as the match stops changes
nothing. -/
theorem Program.search_eq (hfalls : Falls rank program.nodes) (hclosed : Closed program.nodes)
    (hstart : program.start < program.nodes.size) (hcount : 0 < program.groupCount) (text : Text)
    (hbegins : ∀ first ≤ text.length, ∀ accepting,
      preferred hfalls (wholeText text) ⟨program.start, first, []⟩ = some accepting →
      accepting.stored.lookup 0 = some first) :
    program.search text = program.searchFrom (wholeText text) (program.starts text) := by
  have hwhole := searchFrom_eq hfalls (wholeText text) (program.starts_le text)
  have hstarts : (if program.anchored then [0] else List.range (text.toArray.size + 1)) =
      program.starts text := rfl
  simp only [search, hstarts]
  rcases sweep_eq hfalls hclosed hstart text with hsweep | hsweep
  · rw [hsweep]
    rfl
  · rw [hsweep, hwhole]
    cases hpreferred : (program.starts text).findSome? fun position =>
      preferred hfalls (wholeText text) ⟨program.start, position, []⟩ with
    | none => rfl
    | some accepting =>
      obtain ⟨first, hfirst, hbegin⟩ := List.exists_of_findSome?_eq_some hpreferred
      have hexact := (Within.findSome? fun position _ => preferred_within hfalls text
        accepting.position true ⟨program.start, position, []⟩).found accepting hpreferred rfl
      have hfound : program.searchFrom ⟨text.toArray, accepting.position, true⟩
          (program.starts text) =
          some ((List.range program.groupCount).map (groupSpan accepting.stored)) := by
        rw [searchFrom_eq hfalls _ (program.starts_le text), hexact]
        rfl
      have hagain := (preferred_within hfalls text accepting.position false _).found _ hbegin rfl
      simp only [Option.map_some, Verdict.of, hfound]
      split
      case h_1 start stop second rest hspans =>
        have hle := program.starts_le text first hfirst
        have hhead : ((List.range program.groupCount).map (groupSpan accepting.stored)).head? =
            some (some (start, stop)) := by
          rw [Option.some.inj hspans, List.head?_cons]
        cases (hbegins first hle accepting hbegin).symm.trans (head?_groupSpans hcount hhead)
        rw [searchFrom_eq hfalls _ (List.forall_mem_singleton.mpr hle), List.findSome?_singleton,
          hagain, Option.map_some]
      case h_2 => rfl

theorem lookup_of_preferred {shared : Nodes} {entry : Nat} {accepting : Thread}
    {hfalls : Falls rank (plainNodes shared entry)} {scope : Scope} (hclosed : Closed shared)
    (hleaves : LeavesStart shared) (hentry : entry < shared.size) (hfirst : first ≤ scope.text.size)
    (h : preferred hfalls scope ⟨shared.size, first, []⟩ = some accepting) :
    accepting.stored.lookup 0 = some first := by
  have hstore : (plainNodes shared entry)[shared.size]? = some (.store 0 entry) := by
    simp [plainNodes]
  rw [preferred_step hstore rfl, step_store, List.findSome?_singleton] at h
  have hbegun : Begun shared scope first ⟨entry, first, [(0, first)]⟩ := ⟨⟨hentry, hfirst⟩, rfl⟩
  refine (preferred_keeps (fun thread node hthread hnode => ?_) hbegun h).2
  rw [extends_plainNodes _ hthread.1.node_lt] at hnode
  exact hthread.step hclosed hleaves hnode

theorem search_eq {content : Regex} (hnumbered : Numbered content)
    (hfalls : Falls rank (group 0 content).program.nodes) (text : Text) :
    (group 0 content).program.search text =
      (group 0 content).program.searchFrom (wholeText text)
        ((group 0 content).program.starts text) := by
  obtain ⟨shared, entry, hclosed, hleaves, hentry, hprogram, -⟩ := exists_shared_nodes hnumbered
  rw [hprogram] at hfalls ⊢
  refine Program.search_eq hfalls ?_ ?_ ?_ text ?_
  · exact hclosed.push (List.forall_mem_singleton.mpr hentry)
  · simp [plainNodes]
  · exact Nat.lt_of_lt_of_le Nat.one_pos (Nat.le_max_left ..)
  · intro first hfirst accepting h
    exact lookup_of_preferred hclosed hleaves hentry hfirst h

end Descent.Regex
