import Descent.Proofs.Pattern
import Descent.Proofs.Regex.Numbering
import Descent.Proofs.Regex.Visits

/-!
# Anchored searches

A search in depth that has steps enough (`Ample`) does not depend on what other
nodes a program has, as long as it stays among the nodes that are the same
(`follow_shared`). So from the start of the text an anchored program and the one
without the anchor take the same branches: they find the same match there, or
both find none, and the second one goes on to matches that begin further right.
-/

namespace Descent.Regex

variable {nodes nodes' shared : Nodes} {scope : Scope} {visited visited' : Std.HashSet (Nat × Nat)}
  {thread branch : Thread} {threads later : List Thread} {node : Node} {stored : List (Nat × Nat)}

-- ---------------------------------------------------------------------------
-- Shared nodes
-- ---------------------------------------------------------------------------

/-- A program that begins with the nodes of another. -/
def Extends (shared nodes : Nodes) : Prop := ∀ place < shared.size, nodes[place]? = shared[place]?

def Agree (shared : Nodes) (visited visited' : Std.HashSet (Nat × Nat)) : Prop :=
  ∀ node < shared.size, ∀ position,
    visited.contains (node, position) = visited'.contains (node, position)

structure Inside (shared : Nodes) (scope : Scope) (thread : Thread) : Prop where
  node_lt : thread.node < shared.size
  position_le : thread.position ≤ scope.text.size

theorem Inside.step (h : Inside shared scope thread) (hclosed : Closed shared)
    (hnode : shared[thread.node]? = some node) :
    ∀ branch ∈ thread.step scope node, Inside shared scope branch := by
  intro branch hbranch
  have hleads := leads_of_mem_step hbranch
  exact ⟨hclosed node (Array.mem_of_getElem? hnode) _ hleads.target,
    hleads.position_le h.position_le⟩

theorem Agree.insert (h : Agree shared visited visited') (place : Nat × Nat) :
    Agree shared (visited.insert place) (visited'.insert place) := by
  intro node hnode position
  simp only [Std.HashSet.contains_insert, h node hnode position]

/-- Among shared nodes two searches take the same steps. Where one of them finds nothing, the other
one goes on with what waits behind. -/
theorem follow_shared (hclosed : Closed shared) (hnodes : Extends shared nodes)
    (hnodes' : Extends shared nodes') (hagree : Agree shared visited visited')
    (hthreads : ∀ thread ∈ threads, Inside shared scope thread)
    (hsteps : Ample nodes scope steps threads visited)
    (hsteps' : Ample nodes' scope steps' (threads ++ later) visited') :
    (∃ stored, follow nodes scope steps threads visited = some stored ∧
        follow nodes' scope steps' (threads ++ later) visited' = some stored) ∨
      follow nodes scope steps threads visited = none ∧
        ∃ left seen, follow nodes' scope steps' (threads ++ later) visited' =
          follow nodes' scope left later seen := by
  -- Each search has steps enough of its own, so neither stops before the other for want of them.
  induction steps generalizing threads visited visited' steps' with
  | zero => exact absurd hsteps (Nat.not_lt_zero _)
  | succ steps ih =>
    cases threads with
    | nil => exact .inr ⟨rfl, steps', visited', rfl⟩
    | cons thread threads =>
      obtain ⟨steps', rfl⟩ := Nat.exists_eq_add_one_of_ne_zero (Nat.ne_zero_of_lt hsteps')
      obtain ⟨hthread, hrest⟩ := List.forall_mem_cons.mp hthreads
      have hplace := hagree thread.node hthread.node_lt thread.position
      rw [List.cons_append] at hsteps' ⊢
      rw [follow, follow, ← hplace]
      split
      · exact ih hagree hrest hsteps.skip hsteps'.skip
      case isFalse hvisited =>
        obtain ⟨node, hnode⟩ : ∃ node, shared[thread.node]? = some node :=
          ⟨_, Array.getElem?_eq_getElem hthread.node_lt⟩
        have hplaced : nodes[thread.node]? = some node := hnode ▸ hnodes _ hthread.node_lt
        have hplaced' : nodes'[thread.node]? = some node := hnode ▸ hnodes' _ hthread.node_lt
        rw [hplaced, hplaced']
        simp only
        split
        · exact .inl ⟨thread.stored, rfl, rfl⟩
        · have hvisited := Bool.eq_false_iff.mpr hvisited
          have hsteps := hsteps.visit hvisited hplaced hthread.position_le
          have hsteps' := hsteps'.visit (hplace ▸ hvisited) hplaced' hthread.position_le
          rw [← List.append_assoc] at hsteps' ⊢
          refine ih (hagree.insert _) ?_ hsteps hsteps'
          exact List.forall_mem_append.mpr ⟨hthread.step hclosed hnode, hrest⟩

def From (first : Nat) (thread : Thread) : Prop :=
  first ≤ thread.position ∧ ∀ pair ∈ thread.stored, first ≤ pair.2

theorem From.step (h : From first thread) : ∀ branch ∈ thread.step scope node, From first branch := by
  intro branch hbranch
  have hleads := leads_of_mem_step hbranch
  refine ⟨h.1.trans hleads.position_ge, ?_⟩
  rcases hleads.stored with hstored | ⟨slot, next, -, hstored⟩
  · rw [hstored]
    exact h.2
  · rw [hstored]
    exact List.forall_mem_cons.mpr ⟨h.1, h.2⟩

theorem le_of_follow (hthreads : ∀ thread ∈ threads, From first thread)
    (h : follow nodes scope steps threads visited = some stored) :
    ∀ pair ∈ stored, first ≤ pair.2 := by
  obtain ⟨thread, hthread, rfl⟩ := exists_of_follow (fun _ _ h _ => h.step) hthreads h
  exact hthread.2

def Begun (shared : Nodes) (scope : Scope) (first : Nat) (thread : Thread) : Prop :=
  Inside shared scope thread ∧ thread.stored.lookup 0 = some first

theorem Begun.step (h : Begun shared scope first thread) (hclosed : Closed shared)
    (hleaves : LeavesStart shared) (hnode : shared[thread.node]? = some node) :
    ∀ branch ∈ thread.step scope node, Begun shared scope first branch := by
  intro branch hbranch
  refine ⟨h.1.step hclosed hnode branch hbranch, ?_⟩
  rcases (leads_of_mem_step hbranch).stored with hstored | ⟨slot, next, rfl, hstored⟩
  · rw [hstored]
    exact h.2
  · have hslot : slot ≠ 0 := by
      rintro rfl
      exact hleaves _ (Array.mem_of_getElem? hnode) next rfl
    rw [hstored, List.lookup_cons, beq_false_of_ne hslot.symm]
    exact h.2

theorem lookup_of_follow (hclosed : Closed shared) (hleaves : LeavesStart shared)
    (hnodes : Extends shared nodes) (hthreads : ∀ thread ∈ threads, Begun shared scope first thread)
    (h : follow nodes scope steps threads visited = some stored) :
    stored.lookup 0 = some first := by
  have hstep : ∀ thread node, Begun shared scope first thread → nodes[thread.node]? = some node →
      ∀ branch ∈ thread.step scope node, Begun shared scope first branch := by
    intro thread node hthread hnode
    rw [hnodes _ hthread.1.node_lt] at hnode
    exact hthread.step hclosed hleaves hnode
  obtain ⟨thread, hthread, rfl⟩ := exists_of_follow hstep hthreads h
  exact hthread.2

-- ---------------------------------------------------------------------------
-- Both programs
-- ---------------------------------------------------------------------------

def plainNodes (shared : Nodes) (entry : Nat) : Nodes := shared.push (.store 0 entry)

def anchoredNodes (shared : Nodes) (entry : Nat) : Nodes :=
  (shared.push (.lookAt .textStart entry)).push (.store 0 shared.size)

theorem exists_shared_nodes {content : Regex} (hnumbered : Numbered content) :
    ∃ shared entry, Closed shared ∧ LeavesStart shared ∧ entry < shared.size ∧
      (group 0 content).program = ⟨plainNodes shared entry, shared.size, max 1 content.groupCount,
        content.beginsWith .textStart⟩ ∧
      (group 0 (inOrder [.lookAt .textStart, content])).program =
        ⟨anchoredNodes shared entry, shared.size + 1, max 1 content.groupCount, true⟩ := by
  -- Both end alike: group 0 is closed by node 1, and node 0 accepts.
  have hbase : Closed #[.accept, .store 1 0] := by simp [Closed, Node.targets]
  have hgrown := compile_grows content hbase (by decide : 1 < 2)
  have hleaves : LeavesStart #[.accept, .store 1 0] := by simp [LeavesStart]
  refine ⟨(compile content 1 #[.accept, .store 1 0]).2, (compile content 1 #[.accept, .store 1 0]).1,
    hgrown.closed, compile_keepsStart hnumbered 1 _ hleaves, hgrown.entry_lt, ?_, ?_⟩
  · simp only [program, compile, addNode, groupCount, beginsWith]
    rfl
  · simp only [program, compile, addNode, compile_anchored, groupCount, groupCount_anchored,
      beginsWith, beginsWith_anchored, Array.size_push]
    rfl

variable {entry : Nat} {text : Text}

theorem extends_plainNodes : Extends shared (plainNodes shared entry) := by
  intro place hplace
  simp [plainNodes, Array.getElem?_push, hplace.ne]

theorem extends_anchoredNodes : Extends shared (anchoredNodes shared entry) := by
  intro place hplace
  simp [anchoredNodes, Array.getElem?_push, hplace.ne, (Nat.lt_succ_of_lt hplace).ne]

/-- From the start of the text both programs find the same match, or the one without the anchor goes
on to what begins further right. -/
theorem follow_start (hclosed : Closed shared) (hleaves : LeavesStart shared)
    (hentry : entry < shared.size)
    (hsteps : Ample (anchoredNodes shared entry) (wholeText text) steps
      [⟨shared.size + 1, 0, []⟩] {})
    (hsteps' : Ample (plainNodes shared entry) (wholeText text) steps'
      (⟨shared.size, 0, []⟩ :: later) {}) :
    (∃ stored, stored.lookup 0 = some 0 ∧
      follow (anchoredNodes shared entry) (wholeText text) steps [⟨shared.size + 1, 0, []⟩] {} =
        some stored ∧
      follow (plainNodes shared entry) (wholeText text) steps' (⟨shared.size, 0, []⟩ :: later) {} =
        some stored) ∨
      follow (anchoredNodes shared entry) (wholeText text) steps [⟨shared.size + 1, 0, []⟩] {} =
        none ∧
      ∃ left seen,
        follow (plainNodes shared entry) (wholeText text) steps' (⟨shared.size, 0, []⟩ :: later) {} =
          follow (plainNodes shared entry) (wholeText text) left later seen := by
  have hstore : (anchoredNodes shared entry)[shared.size + 1]? = some (.store 0 shared.size) := by
    rw [anchoredNodes, Array.getElem?_push, if_pos (by simp)]
  have hlook : (anchoredNodes shared entry)[shared.size]? = some (.lookAt .textStart entry) := by
    rw [anchoredNodes, Array.getElem?_push, if_neg (by simp), Array.getElem?_push, if_pos rfl]
  have hstore' : (plainNodes shared entry)[shared.size]? = some (.store 0 entry) := by
    simp [plainNodes]
  have hunvisited : (({} : Std.HashSet (Nat × Nat)).insert (shared.size + 1, 0)).contains
      (shared.size, 0) = false := by
    simp
  have hagree : Agree shared
      (({} : Std.HashSet (Nat × Nat)).insert (shared.size + 1, 0) |>.insert (shared.size, 0))
      (({} : Std.HashSet (Nat × Nat)).insert (shared.size, 0)) := by
    intro node hnode position
    simp [hnode.ne', (Nat.lt_succ_of_lt hnode).ne']
  have hthreads : ∀ thread ∈ [⟨entry, 0, [(0, 0)]⟩], Begun shared (wholeText text) 0 thread :=
    List.forall_mem_singleton.mpr ⟨⟨hentry, Nat.zero_le _⟩, rfl⟩
  -- The nodes in front are visited by each search once, and are none of the shared ones.
  obtain ⟨steps, rfl⟩ := Nat.exists_eq_add_one_of_ne_zero (Nat.ne_zero_of_lt hsteps)
  have hsteps := hsteps.visit (by simp) hstore (Nat.zero_le _)
  obtain ⟨steps, rfl⟩ := Nat.exists_eq_add_one_of_ne_zero (Nat.ne_zero_of_lt hsteps)
  have hsteps := hsteps.visit hunvisited hlook (Nat.zero_le _)
  obtain ⟨steps', rfl⟩ := Nat.exists_eq_add_one_of_ne_zero (Nat.ne_zero_of_lt hsteps')
  have hsteps' := hsteps'.visit (by simp) hstore' (Nat.zero_le _)
  rw [follow_enter hstore hlook (Nat.succ_ne_self _).symm,
    follow_visit (by simp) hstore' rfl (step_store 0 entry)]
  apply (follow_shared hclosed extends_anchoredNodes extends_plainNodes hagree
    (fun thread hthread => (hthreads thread hthread).1) hsteps hsteps').imp_left
  rintro ⟨stored, hfound, hfound'⟩
  exact ⟨stored, lookup_of_follow hclosed hleaves extends_anchoredNodes hthreads hfound, hfound,
    hfound'⟩

-- ---------------------------------------------------------------------------
-- Searches
-- ---------------------------------------------------------------------------

def Program.starts (program : Program) (text : Text) : List Nat :=
  if program.anchored then [0] else List.range (text.length + 1)

theorem Program.starts_eq (program : Program) (text : Text) :
    ∃ later, program.starts text = 0 :: later ∧ ∀ start ∈ later, 0 < start := by
  unfold Program.starts
  split
  · exact ⟨[], rfl, fun _ h => (nomatch h)⟩
  · refine ⟨(List.range text.length).map Nat.succ, List.range_succ_eq_map, ?_⟩
    exact List.forall_mem_map.mpr fun _ _ => Nat.succ_pos _

/-- One search finds what another one does, provided that it begins at the start of the text. -/
structure Restricts (anchored plain : Option (List (Option (Nat × Nat)))) : Prop where
  found : ∀ spans, anchored = some spans →
    plain = some spans ∧ ∀ start stop, spans.head? = some (some (start, stop)) → start = 0
  missed : anchored = none → ∀ spans, plain = some spans →
    ∀ start stop, spans.head? = some (some (start, stop)) → 0 < start

theorem head?_groupSpans (hcount : 0 < count)
    (h : ((List.range count).map (groupSpan stored)).head? = some (some (start, stop))) :
    stored.lookup 0 = some start := by
  obtain ⟨count, rfl⟩ := Nat.exists_eq_add_one_of_ne_zero hcount.ne'
  rw [List.range_succ_eq_map] at h
  simp only [List.map_cons, List.head?_cons, Option.some.injEq, groupSpan, Option.bind_eq_bind,
    Option.bind_eq_some_iff, Option.pure_def, Prod.mk.injEq] at h
  obtain ⟨first, hfirst, last, -, rfl, -⟩ := h
  exact hfirst

theorem search_restricts {content : Regex} (hnumbered : Numbered content) (text : Text) :
    Restricts
      ((group 0 (inOrder [.lookAt .textStart, content])).program.searchFrom (wholeText text)
        ((group 0 (inOrder [.lookAt .textStart, content])).program.starts text))
      ((group 0 content).program.searchFrom (wholeText text)
        ((group 0 content).program.starts text)) := by
  obtain ⟨shared, entry, hclosed, hleaves, hentry, hplain, hanchored⟩ := exists_shared_nodes hnumbered
  obtain ⟨later, hstarts, hlater⟩ := (group 0 content).program.starts_eq text
  have hcount : 0 < max 1 content.groupCount := Nat.lt_of_lt_of_le Nat.one_pos (Nat.le_max_left ..)
  have hsteps := ample_search (anchoredNodes shared entry) (wholeText text) (shared.size + 1) [0]
  have hsteps' := ample_search (plainNodes shared entry) (wholeText text) shared.size (0 :: later)
  have hfrom : ∀ thread ∈ later.map fun position => (⟨shared.size, position, []⟩ : Thread),
      From 1 thread := by
    refine List.forall_mem_map.mpr fun position hposition => ⟨hlater position hposition, ?_⟩
    rintro _ ⟨⟩
  have hone : (group 0 (inOrder [.lookAt .textStart, content])).program.starts text = [0] := by
    rw [hanchored]
    rfl
  rw [hone, hstarts, hplain, hanchored]
  simp only [Program.searchFrom, List.map_cons, List.map_nil] at hsteps hsteps' ⊢
  rcases follow_start hclosed hleaves hentry hsteps hsteps' with
    ⟨stored, hfirst, hfound, hfound'⟩ | ⟨hmissed, left, seen, hfollow⟩
  · rw [hfound, hfound']
    constructor
    · rintro _ ⟨⟩
      refine ⟨rfl, fun start stop hspan => ?_⟩
      cases hfirst.symm.trans (head?_groupSpans hcount hspan)
      rfl
    · rintro ⟨⟩
  · rw [hmissed, hfollow]
    constructor
    · rintro _ ⟨⟩
    · rintro - spans hspans start stop hspan
      obtain ⟨stored, hstored, rfl⟩ := Option.map_eq_some_iff.mp hspans
      have hfirst := head?_groupSpans hcount hspan
      obtain ⟨before, behind, rfl, -⟩ := List.lookup_eq_some_iff.mp hfirst
      exact le_of_follow hfrom hstored (0, start) (List.mem_append_right _ List.mem_cons_self)

end Descent.Regex
