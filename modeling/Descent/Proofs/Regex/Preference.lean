import Mathlib.Data.List.Lex
import Descent.Proofs.Pattern
import Descent.Proofs.Regex.Visits

/-!
# Preference

Where numbers fall along all edges that read nothing (`Falls`), a branch comes to
no place again that it has left. Then the branch that accepts is told without a
word about visits: the first that does, in order of preference (`preferred`). The
search in depth finds it (`follow_eq`): what was visited when it comes to a place
again was visited in vain. Of the preferred branch it does not matter what may be
read behind the place where it stops (`preferred_within`), nor what was stored
before (`preferred_onto`).
-/

namespace Descent.Regex

/-- The numbers of nodes fall along every edge that reads nothing. -/
def Falls (rank : Nat → Nat) (nodes : Nodes) : Prop :=
  ∀ place node, nodes[place]? = some node → ∀ target ∈ node.passes, rank target < rank place

variable {nodes : Nodes} {rank : Nat → Nat} {hfalls : Falls rank nodes} {scope : Scope}
  {thread branch accepting : Thread} {threads later : List Thread} {node : Node}
  {visited seen known : Std.HashSet (Nat × Nat)} {stored : List (Nat × Nat)}

-- ---------------------------------------------------------------------------
-- Order
-- ---------------------------------------------------------------------------

/-- The branch waits behind a place, so it cannot come to it any more. -/
def Beyond (rank : Nat → Nat) (branch : Thread) (place : Nat × Nat) : Prop :=
  place.2 < branch.position ∨ branch.position = place.2 ∧ rank branch.node < rank place.1

theorem Beyond.trans (h : Beyond rank branch (thread.node, thread.position))
    (hthread : Beyond rank thread place) : Beyond rank branch place := by
  simp only [Beyond] at h hthread ⊢
  omega

theorem not_beyond_self : ¬Beyond rank thread (thread.node, thread.position) := by
  simp [Beyond]

theorem Falls.beyond (h : Falls rank nodes) (hnode : nodes[thread.node]? = some node)
    (hbranch : branch ∈ thread.step scope node) :
    Beyond rank branch (thread.node, thread.position) :=
  (leads_of_mem_step hbranch).reads_or_passes.imp (·.1)
    fun hpasses => ⟨hpasses.1, h _ _ hnode _ hpasses.2⟩

theorem Falls.lex (h : Falls rank nodes) (hnode : nodes[thread.node]? = some node)
    (hbranch : branch ∈ thread.step scope node) :
    Prod.Lex (· < ·) (· < ·) (scope.text.size - branch.position, rank branch.node)
      (scope.text.size - thread.position, rank thread.node) := by
  rcases (leads_of_mem_step hbranch).reads_or_passes with ⟨hlt, hle⟩ | ⟨hposition, hpasses⟩
  · exact .left _ _ (by omega)
  · rw [hposition]
    exact .right _ (h _ _ hnode _ hpasses)

theorem Falls.congr {rank' : Nat → Nat} (h : Falls rank nodes) (hclosed : Closed nodes)
    (hrank : ∀ place < nodes.size, rank' place = rank place) : Falls rank' nodes := by
  intro place node hnode target htarget
  have htarget' := hclosed node (Array.mem_of_getElem? hnode) target
    (Node.mem_targets_of_passes htarget)
  rw [hrank target htarget', hrank place (Array.getElem?_eq_some_iff.mp hnode).1]
  exact h place node hnode target htarget

theorem Falls.push (h : Falls rank nodes)
    (hnode : ∀ target ∈ node.passes, rank target < rank nodes.size) :
    Falls rank (nodes.push node) := by
  intro place other hother target htarget
  rw [Array.getElem?_push] at hother
  split at hother
  case isTrue hplace =>
    cases hother
    exact hplace ▸ hnode target htarget
  case isFalse => exact h place other hother target htarget

theorem thread_induction (hfalls : Falls rank nodes) (scope : Scope) {motive : Thread → Prop}
    (step : ∀ thread, (∀ node, nodes[thread.node]? = some node →
      ∀ branch ∈ thread.step scope node, motive branch) → motive thread)
    (thread : Thread) : motive thread :=
  step thread fun _ _hnode branch _hbranch => thread_induction hfalls scope step branch
termination_by (scope.text.size - thread.position, rank thread.node)
decreasing_by exact hfalls.lex _hnode _hbranch

-- ---------------------------------------------------------------------------
-- The preferred branch
-- ---------------------------------------------------------------------------

/-- The branch that accepts, of all that a branch leads to the first in order of preference. -/
def preferred (hfalls : Falls rank nodes) (scope : Scope) (thread : Thread) : Option Thread :=
  match _hnode : nodes[thread.node]? with
  | none => none
  | some node =>
    if node.isAccept && scope.accepts thread.position then some thread
    else (thread.step scope node).attach.findSome? fun branch => preferred hfalls scope branch.1
termination_by (scope.text.size - thread.position, rank thread.node)
decreasing_by exact hfalls.lex _hnode branch.2

theorem preferred_missing (hnode : nodes[thread.node]? = none) :
    preferred hfalls scope thread = none := by
  rw [preferred]
  split
  case h_1 => rfl
  case h_2 node hother => cases hnode.symm.trans hother

theorem preferred_accept (hnode : nodes[thread.node]? = some node)
    (haccept : (node.isAccept && scope.accepts thread.position) = true) :
    preferred hfalls scope thread = some thread := by
  rw [preferred]
  split
  case h_1 hnone => cases hnode.symm.trans hnone
  case h_2 other hother =>
    cases hnode.symm.trans hother
    rw [if_pos haccept]

theorem preferred_step (hnode : nodes[thread.node]? = some node)
    (haccept : (node.isAccept && scope.accepts thread.position) = false) :
    preferred hfalls scope thread =
      (thread.step scope node).findSome? (preferred hfalls scope) := by
  rw [preferred]
  split
  case h_1 hnone => cases hnode.symm.trans hnone
  case h_2 other hother =>
    cases hnode.symm.trans hother
    rw [if_neg (by simp [haccept])]
    conv_rhs => rw [← List.attach_map_subtype_val (thread.step scope node), List.findSome?_map]
    rfl

theorem preferred_cases {motive : Thread → Prop} (hfalls : Falls rank nodes) (scope : Scope)
    (missing : ∀ thread, nodes[thread.node]? = none → motive thread)
    (accept : ∀ thread node, nodes[thread.node]? = some node →
      (node.isAccept && scope.accepts thread.position) = true → motive thread)
    (step : ∀ thread node, nodes[thread.node]? = some node →
      (node.isAccept && scope.accepts thread.position) = false →
      (∀ branch ∈ thread.step scope node, motive branch) → motive thread)
    (thread : Thread) : motive thread := by
  induction thread using thread_induction hfalls scope with
  | step thread ih =>
    cases hnode : nodes[thread.node]? with
    | none => exact missing thread hnode
    | some node =>
      cases haccept : node.isAccept && scope.accepts thread.position with
      | true => exact accept thread node hnode haccept
      | false => exact step thread node hnode haccept (ih node hnode)

theorem preferred_keeps {motive : Thread → Prop}
    (hstep : ∀ thread node, motive thread → nodes[thread.node]? = some node →
      ∀ branch ∈ thread.step scope node, motive branch)
    (hthread : motive thread) (h : preferred hfalls scope thread = some accepting) :
    motive accepting := by
  induction thread using preferred_cases hfalls scope with
  | missing thread hnode =>
    rw [preferred_missing hnode] at h
    cases h
  | accept thread node hnode haccept =>
    rw [preferred_accept hnode haccept] at h
    exact Option.some.inj h ▸ hthread
  | step thread node hnode haccept ih =>
    rw [preferred_step hnode haccept] at h
    obtain ⟨branch, hbranch, h⟩ := List.exists_of_findSome?_eq_some h
    exact ih branch hbranch (hstep thread node hthread hnode branch hbranch) h

theorem position_le_of_preferred (h : preferred hfalls scope thread = some accepting) :
    thread.position ≤ accepting.position := by
  refine preferred_keeps (motive := fun other => thread.position ≤ other.position) ?_ le_rfl h
  intro other node hle hnode branch hbranch
  exact hle.trans (leads_of_mem_step hbranch).position_ge

theorem findSome?_cons_or {α β : Type} (f : α → Option β) (item : α) (list : List α) :
    (item :: list).findSome? f = (f item).or (list.findSome? f) := by
  rw [← List.singleton_append, List.findSome?_append, List.findSome?_singleton]

theorem findSome?_congr {α β : Type} {list : List α} {f g : α → Option β}
    (h : ∀ item ∈ list, f item = g item) : list.findSome? f = list.findSome? g := by
  induction list with
  | nil => rfl
  | cons item list ih =>
    obtain ⟨hitem, hlist⟩ := List.forall_mem_cons.mp h
    rw [List.findSome?_cons, List.findSome?_cons, hitem, ih hlist]

def Thread.onto (stored : List (Nat × Nat)) (thread : Thread) : Thread :=
  { thread with stored := thread.stored ++ stored }

theorem step_onto (scope : Scope) (stored : List (Nat × Nat)) (thread : Thread) (node : Node) :
    (thread.onto stored).step scope node = (thread.step scope node).map (Thread.onto stored) := by
  cases node with
  | oneOf set next =>
    simp only [Thread.step, Thread.onto]
    cases scope.text[thread.position]? with
    | none => rfl
    | some symbol =>
      rw [apply_ite (List.map (Thread.onto stored))]
      rfl
  | lookAt look next =>
    simp only [Thread.step, Thread.onto]
    rw [apply_ite (List.map (Thread.onto stored))]
    rfl
  | _ => rfl

theorem preferred_onto (hfalls : Falls rank nodes) (scope : Scope) (stored : List (Nat × Nat))
    (thread : Thread) :
    preferred hfalls scope (thread.onto stored) =
      (preferred hfalls scope thread).map (Thread.onto stored) := by
  induction thread using preferred_cases hfalls scope with
  | missing thread hnode =>
    have hnode' : nodes[(thread.onto stored).node]? = none := hnode
    rw [preferred_missing hnode, preferred_missing hnode', Option.map_none]
  | accept thread node hnode haccept =>
    have hnode' : nodes[(thread.onto stored).node]? = some node := hnode
    rw [preferred_accept hnode haccept, preferred_accept hnode' haccept, Option.map_some]
  | step thread node hnode haccept ih =>
    have hnode' : nodes[(thread.onto stored).node]? = some node := hnode
    rw [preferred_step hnode haccept, preferred_step hnode' haccept, step_onto, List.findSome?_map,
      List.map_findSome?]
    exact findSome?_congr ih

-- ---------------------------------------------------------------------------
-- The search in depth
-- ---------------------------------------------------------------------------

/-- No branch accepts that comes to the place, whatever it has stored. -/
def Vain (hfalls : Falls rank nodes) (scope : Scope) (place : Nat × Nat) : Prop :=
  ∀ stored, preferred hfalls scope ⟨place.1, place.2, stored⟩ = none

theorem vain_of_preferred (h : preferred hfalls scope thread = none) :
    Vain hfalls scope (thread.node, thread.position) := by
  have hbare := preferred_onto hfalls scope thread.stored ⟨thread.node, thread.position, []⟩
  rw [Thread.onto, List.nil_append, h, eq_comm, Option.map_eq_none_iff] at hbare
  intro stored
  have hstored := preferred_onto hfalls scope stored ⟨thread.node, thread.position, []⟩
  rwa [Thread.onto, List.nil_append, hbare] at hstored

/-- What has been visited since then was visited in vain. -/
def OnlyVain (hfalls : Falls rank nodes) (scope : Scope) (visited seen : Std.HashSet (Nat × Nat)) :
    Prop :=
  ∀ place, seen.contains place = true → visited.contains place = true ∨ Vain hfalls scope place

theorem OnlyVain.refl : OnlyVain hfalls scope visited visited := fun _ => .inl

theorem OnlyVain.trans (h : OnlyVain hfalls scope visited seen)
    (hlater : OnlyVain hfalls scope seen known) : OnlyVain hfalls scope visited known :=
  fun place hplace => (hlater place hplace).elim (h place) .inr

theorem OnlyVain.of_insert
    (h : OnlyVain hfalls scope (visited.insert (thread.node, thread.position)) seen)
    (hmissed : preferred hfalls scope thread = none) : OnlyVain hfalls scope visited seen := by
  intro place hplace
  rcases h place hplace with hplace | hvain
  · rw [Std.HashSet.contains_insert, Bool.or_eq_true] at hplace
    rcases hplace with hplace | hplace
    · exact .inr (eq_of_beq hplace ▸ vain_of_preferred hmissed)
    · exact .inl hplace
  · exact .inr hvain

/-- What a search comes to that follows some branches before others. -/
inductive Explores (hfalls : Falls rank nodes) (scope : Scope) (threads later : List Thread)
    (steps : Nat) (visited : Std.HashSet (Nat × Nat)) : Prop
  | found (accepting : Thread) : threads.findSome? (preferred hfalls scope) = some accepting →
      follow nodes scope steps (threads ++ later) visited = some accepting.stored →
      Explores hfalls scope threads later steps visited
  | missed (left : Nat) (seen : Std.HashSet (Nat × Nat)) :
      threads.findSome? (preferred hfalls scope) = none → left ≤ steps →
      follow nodes scope steps (threads ++ later) visited = follow nodes scope left later seen →
      Ample nodes scope left later seen → OnlyVain hfalls scope visited seen →
      Explores hfalls scope threads later steps visited

theorem Explores.cons (h : Explores hfalls scope threads later left seen)
    (hthread : preferred hfalls scope thread = none) (hleft : left ≤ steps)
    (hfollow : follow nodes scope steps (thread :: threads ++ later) visited =
      follow nodes scope left (threads ++ later) seen)
    (hseen : OnlyVain hfalls scope visited seen) :
    Explores hfalls scope (thread :: threads) later steps visited := by
  have hfirst : (thread :: threads).findSome? (preferred hfalls scope) =
      threads.findSome? (preferred hfalls scope) := by
    rw [List.findSome?_cons, hthread]
  cases h with
  | found accepting hpreferred hfound =>
    exact .found accepting (hfirst.trans hpreferred) (hfollow.trans hfound)
  | missed least known hnone hleast hgoes hample hknown =>
    exact .missed least known (hfirst.trans hnone) (hleast.trans hleft) (hfollow.trans hgoes)
      hample (hseen.trans hknown)

/-- Whatever has been visited was visited in vain, or the branches cannot come to it any more. -/
def Settled (hfalls : Falls rank nodes) (scope : Scope) (threads : List Thread)
    (visited : Std.HashSet (Nat × Nat)) : Prop :=
  ∀ place, visited.contains place = true →
    Vain hfalls scope place ∨ ∀ thread ∈ threads, Beyond rank thread place

theorem Settled.tail (h : Settled hfalls scope (thread :: threads) visited) :
    Settled hfalls scope threads visited := fun place hplace =>
  (h place hplace).imp_right fun hbeyond other hother => hbeyond other (.tail _ hother)

theorem Settled.step (h : Settled hfalls scope (thread :: threads) visited)
    (hnode : nodes[thread.node]? = some node) :
    Settled hfalls scope (thread.step scope node)
      (visited.insert (thread.node, thread.position)) := by
  intro place hplace
  rw [Std.HashSet.contains_insert, Bool.or_eq_true] at hplace
  rcases hplace with hplace | hplace
  · obtain rfl := eq_of_beq hplace
    exact .inr fun branch hbranch => hfalls.beyond hnode hbranch
  · refine (h place hplace).imp_right fun hbeyond branch hbranch => ?_
    exact (hfalls.beyond hnode hbranch).trans (hbeyond thread List.mem_cons_self)

theorem Settled.onward (h : Settled hfalls scope threads visited)
    (hseen : OnlyVain hfalls scope visited seen) : Settled hfalls scope threads seen :=
  fun place hplace => (hseen place hplace).elim (h place) .inl

theorem follow_explores (hsteps : Ample nodes scope steps (threads ++ later) visited)
    (hsettled : Settled hfalls scope threads visited)
    (hpositions : ∀ thread ∈ threads, thread.position ≤ scope.text.size) :
    Explores hfalls scope threads later steps visited := by
  induction steps using Nat.strong_induction_on generalizing threads later visited with
  | _ steps ih =>
    cases threads with
    | nil => exact .missed steps visited rfl le_rfl rfl hsteps .refl
    | cons thread threads =>
      obtain ⟨steps, rfl⟩ := Nat.exists_eq_add_one_of_ne_zero (Nat.ne_zero_of_lt hsteps)
      obtain ⟨hposition, hothers⟩ := List.forall_mem_cons.mp hpositions
      rw [List.cons_append] at hsteps
      have hskip := ih steps (Nat.lt_succ_self _) hsteps.skip hsettled.tail hothers
      cases hseen : visited.contains (thread.node, thread.position) with
      | true =>
        have hvain := (hsettled _ hseen).resolve_right fun h =>
          not_beyond_self (h thread List.mem_cons_self)
        exact hskip.cons (hvain thread.stored) (Nat.le_succ _) (by simp [follow, hseen]) .refl
      | false =>
        cases hnode : nodes[thread.node]? with
        | none =>
          exact hskip.cons (preferred_missing hnode) (Nat.le_succ _)
            (by simp [follow, hseen, hnode]) .refl
        | some node =>
          cases haccept : node.isAccept && scope.accepts thread.position with
          | true =>
            refine .found thread ?_ ?_
            · rw [List.findSome?_cons, preferred_accept hnode haccept]
            · simp only [Bool.and_eq_true] at haccept
              simp [follow, hseen, hnode, haccept]
          | false =>
            have hfollow : follow nodes scope (steps + 1) (thread :: threads ++ later) visited =
                follow nodes scope steps (thread.step scope node ++ (threads ++ later))
                  (visited.insert (thread.node, thread.position)) := by
              simp [follow, hseen, hnode, haccept]
            have hbranches := ih steps (Nat.lt_succ_self _) (hsteps.visit hseen hnode hposition)
              (hsettled.step hnode) fun branch hbranch =>
                (leads_of_mem_step hbranch).position_le hposition
            cases hbranches with
            | found accepting hpreferred hfound =>
              refine .found accepting ?_ (hfollow.trans hfound)
              rw [List.findSome?_cons, preferred_step hnode haccept, hpreferred]
            | missed left seen hnone hleft hgoes hample hknown =>
              -- The place has been left for good, and nothing came of it.
              have hmissed : preferred hfalls scope thread = none :=
                (preferred_step hnode haccept).trans hnone
              have hseen := hknown.of_insert hmissed
              have hsettled := hsettled.tail.onward hseen
              have hrest := ih left (Nat.lt_succ_of_le hleft) hample hsettled hothers
              exact hrest.cons hmissed (hleft.trans (Nat.le_succ _)) (hfollow.trans hgoes) hseen

theorem follow_eq (hfalls : Falls rank nodes) (hsteps : Ample nodes scope steps threads {})
    (hpositions : ∀ thread ∈ threads, thread.position ≤ scope.text.size) :
    follow nodes scope steps threads {} =
      (threads.findSome? (preferred hfalls scope)).map Thread.stored := by
  have hexplores : Explores hfalls scope threads [] steps {} := by
    refine follow_explores ?_ ?_ hpositions
    · rwa [List.append_nil]
    · intro place hplace
      simp at hplace
  cases hexplores with
  | found accepting hpreferred hfound =>
    rw [hpreferred, ← List.append_nil threads, hfound, Option.map_some]
  | missed left seen hnone _ hgoes _ _ =>
    rw [hnone, ← List.append_nil threads, hgoes]
    cases left <;> rfl

-- ---------------------------------------------------------------------------
-- Less to read
-- ---------------------------------------------------------------------------

variable {text : Text} {stop : Nat} {exact : Bool}

theorem step_within (text : Text) (stop : Nat) (exact : Bool) (thread : Thread) (node : Node) :
    thread.step ⟨text.toArray, stop, exact⟩ node = thread.step (wholeText text) node ∨
      thread.step ⟨text.toArray, stop, exact⟩ node = [] ∧
        ∀ branch ∈ thread.step (wholeText text) node, stop < branch.position := by
  cases node with
  | oneOf set next =>
    simp only [Thread.step, wholeText]
    cases hsymbol : text.toArray[thread.position]? with
    | none => exact .inl rfl
    | some symbol =>
      obtain ⟨hlt, -⟩ := Array.getElem?_eq_some_iff.mp hsymbol
      by_cases hstop : thread.position < stop
      · left
        simp only [hstop, hlt]
      · refine .inr ⟨by simp [hstop], fun branch hbranch => ?_⟩
        obtain ⟨-, hbranch⟩ := List.mem_ite_nil_right.mp hbranch
        obtain rfl := List.mem_singleton.mp hbranch
        exact Nat.lt_succ_of_le (Nat.le_of_not_lt hstop)
  | _ => exact .inl rfl

/-- What a search comes to that reads up to `stop`, where one that reads on comes to `whole`. -/
structure Within (stop : Nat) (whole bounded : Option Thread) : Prop where
  missed : whole = none → bounded = none
  found : ∀ accepting, whole = some accepting → accepting.position = stop → bounded = some accepting

theorem Within.findSome? {α : Type} {starts : List α} {whole bounded : α → Option Thread}
    (h : ∀ start ∈ starts, Within stop (whole start) (bounded start)) :
    Within stop (starts.findSome? whole) (starts.findSome? bounded) := by
  induction starts with
  | nil => exact ⟨fun _ => rfl, fun _ h => nomatch h⟩
  | cons start starts ih =>
    obtain ⟨hstart, hstarts⟩ := List.forall_mem_cons.mp h
    rw [List.findSome?_cons, List.findSome?_cons]
    cases hwhole : whole start with
    | none =>
      rw [hstart.missed hwhole]
      exact ih hstarts
    | some accepting =>
      refine ⟨fun h => (nomatch h), ?_⟩
      rintro _ ⟨⟩ hstop
      rw [hstart.found accepting hwhole hstop]

theorem preferred_within (hfalls : Falls rank nodes) (text : Text) (stop : Nat) (exact : Bool)
    (thread : Thread) :
    Within stop (preferred hfalls (wholeText text) thread)
      (preferred hfalls ⟨text.toArray, stop, exact⟩ thread) := by
  induction thread using preferred_cases hfalls (wholeText text) with
  | missing thread hnode =>
    rw [preferred_missing hnode, preferred_missing hnode]
    exact ⟨fun _ => rfl, fun _ h => nomatch h⟩
  | accept thread node hnode haccept =>
    rw [preferred_accept hnode haccept]
    refine ⟨fun h => (nomatch h), ?_⟩
    rintro _ ⟨⟩ hstop
    refine preferred_accept hnode ?_
    simp only [Bool.and_eq_true] at haccept
    simp [haccept.1, Scope.accepts, hstop]
  | step thread node hnode haccept ih =>
    have hwhole : node.isAccept = false := by
      simpa [Scope.accepts, wholeText] using haccept
    rw [preferred_step hnode haccept, preferred_step hnode (by simp [hwhole])]
    rcases step_within text stop exact thread node with hstep | ⟨hstep, hbehind⟩
    · rw [hstep]
      exact Within.findSome? ih
    · rw [hstep]
      refine ⟨fun _ => rfl, fun accepting haccepting hstop => ?_⟩
      obtain ⟨branch, hbranch, hpreferred⟩ := List.exists_of_findSome?_eq_some haccepting
      have hlt := hbehind branch hbranch
      have hle := position_le_of_preferred hpreferred
      omega

end Descent.Regex
