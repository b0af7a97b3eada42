import Mathlib.Data.Finset.Card
import Mathlib.Data.Finset.Prod
import Mathlib.Tactic.Ring
import Descent.Proofs.Regex.Nodes
import Descent.Regex.Search

/-!
# Visits

A visit to a node adds two branches at most (`length_step`), which go on at its
targets, no further left and within the text (`leads_of_mem_step`). No place is
visited twice, so there is a number of steps that suffices (`Enough`): three for
every place that is left to be visited, and one for everything that waits.
-/

namespace Descent.Regex

-- ---------------------------------------------------------------------------
-- Steps enough
-- ---------------------------------------------------------------------------

section
variable {α : Type} [BEq α] [Hashable α] {all : Finset α} {visited : Std.HashSet α} {place : α}

def unvisited (all : Finset α) (visited : Std.HashSet α) : Finset α :=
  all.filter fun place => visited.contains place = false

/-- A visit uses up a place and adds two more at most to what waits, so there are steps for all that
is left to be visited. -/
def Enough (all : Finset α) (steps waiting : Nat) (visited : Std.HashSet α) : Prop :=
  waiting + 2 * (unvisited all visited).card < steps

theorem Enough.skip (h : Enough all (steps + 1) (waiting + 1) visited) :
    Enough all steps waiting visited := by
  unfold Enough at h ⊢
  omega

variable [LawfulBEq α] [LawfulHashable α]

theorem unvisited_insert_subset (all : Finset α) (visited : Std.HashSet α) (place : α) :
    unvisited all (visited.insert place) ⊆ unvisited all visited := by
  intro other hother
  simp only [unvisited, Finset.mem_filter, Std.HashSet.contains_insert, Bool.or_eq_false_iff]
    at hother ⊢
  exact ⟨hother.1, hother.2.2⟩

theorem Enough.insert (h : Enough all steps waiting visited) (place : α) :
    Enough all steps waiting (visited.insert place) := by
  have hcard := Finset.card_le_card (unvisited_insert_subset all visited place)
  unfold Enough at h ⊢
  omega

theorem Enough.visit (h : Enough all (steps + 1) (waiting + 1) visited) (hplace : place ∈ all)
    (hvisited : visited.contains place = false) (hadded : added ≤ 2) :
    Enough all steps (added + waiting) (visited.insert place) := by
  have hlt : (unvisited all (visited.insert place)).card < (unvisited all visited).card := by
    refine Finset.card_lt_card ⟨unvisited_insert_subset all visited place, fun hsubset => ?_⟩
    have hmem := hsubset (Finset.mem_filter.mpr ⟨hplace, hvisited⟩)
    simp [unvisited] at hmem
  unfold Enough at h ⊢
  omega

end

variable {nodes : Nodes} {scope : Scope} {visited : Std.HashSet (Nat × Nat)}
  {thread branch : Thread} {threads : List Thread} {node : Node} {stored : List (Nat × Nat)}

-- ---------------------------------------------------------------------------
-- One step
-- ---------------------------------------------------------------------------

structure Leads (scope : Scope) (thread : Thread) (node : Node) (branch : Thread) : Prop where
  target : branch.node ∈ node.targets
  reads_or_passes : thread.position < branch.position ∧ branch.position ≤ scope.text.size ∨
    branch.position = thread.position ∧ branch.node ∈ node.passes
  stored : branch.stored = thread.stored ∨
    ∃ slot next, node = .store slot next ∧ branch.stored = (slot, thread.position) :: thread.stored

theorem Leads.position_ge (h : Leads scope thread node branch) :
    thread.position ≤ branch.position := by
  have := h.reads_or_passes
  omega

theorem Leads.position_le (h : Leads scope thread node branch)
    (hposition : thread.position ≤ scope.text.size) : branch.position ≤ scope.text.size := by
  have := h.reads_or_passes
  omega

theorem Node.mem_targets_of_passes (h : target ∈ node.passes) : target ∈ node.targets := by
  cases node <;> first | exact h | cases h

theorem leads_pass (hnext : next ∈ node.passes) :
    Leads scope thread node { thread with node := next } :=
  ⟨Node.mem_targets_of_passes hnext, .inr ⟨rfl, hnext⟩, .inl rfl⟩

theorem leads_of_mem_step (h : branch ∈ thread.step scope node) : Leads scope thread node branch := by
  cases node with
  | accept => cases h
  | oneOf set next =>
    simp only [Thread.step] at h
    split at h
    case h_1 symbol hsymbol =>
      split at h
      · obtain rfl := List.mem_singleton.mp h
        obtain ⟨hlt, -⟩ := Array.getElem?_eq_some_iff.mp hsymbol
        exact ⟨List.mem_singleton.mpr rfl, .inl ⟨Nat.lt_succ_self _, hlt⟩, .inl rfl⟩
      · cases h
    · cases h
  | lookAt look next =>
    simp only [Thread.step] at h
    generalize (if thread.position = 0 then none else scope.text[thread.position - 1]?) = before at h
    split at h
    · obtain rfl := List.mem_singleton.mp h
      exact leads_pass (List.mem_singleton.mpr rfl)
    · cases h
  | store slot next =>
    obtain rfl := List.mem_singleton.mp h
    have hnext : next ∈ (Node.store slot next).passes := List.mem_singleton.mpr rfl
    exact ⟨hnext, .inr ⟨rfl, hnext⟩, .inr ⟨slot, next, rfl, rfl⟩⟩
  | split first second =>
    obtain rfl | h := List.mem_cons.mp h
    · exact leads_pass List.mem_cons_self
    · obtain rfl := List.mem_singleton.mp h
      exact leads_pass (List.mem_cons_of_mem _ List.mem_cons_self)

theorem length_step (scope : Scope) (thread : Thread) (node : Node) :
    (thread.step scope node).length ≤ 2 := by
  cases node with
  | accept => exact Nat.zero_le _
  | oneOf set next =>
    simp only [Thread.step]
    split
    · split
      · exact Nat.le_succ _
      · exact Nat.zero_le _
    · exact Nat.zero_le _
  | lookAt look next =>
    simp only [Thread.step]
    generalize (if thread.position = 0 then none else scope.text[thread.position - 1]?) = before
    split
    · exact Nat.le_succ _
    · exact Nat.zero_le _
  | store slot next => exact Nat.le_succ _
  | split first second => exact Nat.le_refl _

-- ---------------------------------------------------------------------------
-- Searches
-- ---------------------------------------------------------------------------

def Ample (nodes : Nodes) (scope : Scope) (steps : Nat) (threads : List Thread)
    (visited : Std.HashSet (Nat × Nat)) : Prop :=
  Enough (Finset.range nodes.size ×ˢ Finset.range (scope.text.size + 1)) steps threads.length visited

theorem Ample.skip (h : Ample nodes scope (steps + 1) (thread :: threads) visited) :
    Ample nodes scope steps threads visited := Enough.skip h

theorem Ample.visit (h : Ample nodes scope (steps + 1) (thread :: threads) visited)
    (hvisited : visited.contains (thread.node, thread.position) = false)
    (hnode : nodes[thread.node]? = some node) (hposition : thread.position ≤ scope.text.size) :
    Ample nodes scope steps (thread.step scope node ++ threads)
      (visited.insert (thread.node, thread.position)) := by
  have hlt : thread.node < nodes.size := (Array.getElem?_eq_some_iff.mp hnode).1
  have hplace : (thread.node, thread.position) ∈
      Finset.range nodes.size ×ˢ Finset.range (scope.text.size + 1) := by
    simpa [hlt] using Nat.lt_succ_of_le hposition
  rw [Ample, List.length_append]
  exact Enough.visit h hplace hvisited (length_step scope thread node)

theorem ample_search (nodes : Nodes) (scope : Scope) (start : Nat) (starts : List Nat) :
    Ample nodes scope ((scope.text.size + 1) * (2 * nodes.size) + starts.length + 1)
      (starts.map fun position => ⟨start, position, []⟩) {} := by
  have hcard := Finset.card_filter_le
    (Finset.range nodes.size ×ˢ Finset.range (scope.text.size + 1))
    fun place => ({} : Std.HashSet (Nat × Nat)).contains place = false
  rw [Finset.card_product, Finset.card_range, Finset.card_range] at hcard
  have hsteps : (scope.text.size + 1) * (2 * nodes.size) =
      2 * (nodes.size * (scope.text.size + 1)) := by
    ring
  rw [Ample, Enough, unvisited, List.length_map]
  omega

/-- What every step keeps is true of the branch that accepts. -/
theorem exists_of_follow {motive : Thread → Prop}
    (hstep : ∀ thread node, motive thread → nodes[thread.node]? = some node →
      ∀ branch ∈ thread.step scope node, motive branch)
    (hthreads : ∀ thread ∈ threads, motive thread)
    (h : follow nodes scope steps threads visited = some stored) :
    ∃ thread, motive thread ∧ thread.stored = stored := by
  induction steps generalizing threads visited with
  | zero => cases h
  | succ steps ih =>
    cases threads with
    | nil => cases h
    | cons thread threads =>
      obtain ⟨hthread, hrest⟩ := List.forall_mem_cons.mp hthreads
      rw [follow] at h
      split at h
      · exact ih hrest h
      · split at h
        · exact ih hrest h
        case h_2 node hnode =>
          split at h
          · cases h
            exact ⟨thread, hthread, rfl⟩
          · apply ih _ h
            exact List.forall_mem_append.mpr ⟨hstep thread node hthread hnode, hrest⟩

end Descent.Regex
